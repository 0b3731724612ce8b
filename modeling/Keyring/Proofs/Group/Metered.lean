import Keyring.Proofs.Group.Convergence
import Keyring.Proofs.Group.Delivery
import Keyring.Proofs.Group.Measured
import Keyring.Proofs.Group.SingleOutput
import Keyring.Proofs.Program.Recorded

namespace Keyring

namespace Request

def isCommit : Request → Bool
  | commitKey .. => true
  | _ => false

def isDerivation : Request → Bool
  | deriveKey .. => true
  | _ => false

def isUpload : Request → Bool
  | uploadPage .. => true
  | _ => false

end Request

namespace Event

/-- Whether a call for a request of some kind came back with a value. -/
def returned (p : Request → Bool) : Event → Bool
  | called q (.ok _) => p q
  | _ => false

/-- Whether a call for a request of some kind came back with a failure. -/
def refused (p : Request → Bool) : Event → Bool
  | called q (.error _) => p q
  | _ => false

/-- The keys that a fetch brought. -/
def batch? : Event → Option (List Key)
  | called (.fetchKeys ..) (.ok batch) => some batch
  | _ => none

end Event

namespace Metric

/-- Whether an event is a call that a measurement is of. -/
def isOf : Metric → Event → Bool
  | batchFetched n, e => e.batch?.any (·.length == n)
  | pageUploaded true, e => e.returned Request.isUpload
  | pageUploaded false, e => e.refused Request.isUpload
  | outputHandled .resolved, e => e.returned Request.isCommit
  | outputHandled .failed, e => e.refused Request.isDerivation
  | _, _ => false

theorem due?_beq {m : Metric} (hm : m.isOfCall = true) (e : Event) :
    (e.due? == some m) = m.isOf e := by
  -- Nothing else is measured of a call.
  have hcases : m = .pageUploaded true ∨ m = .pageUploaded false ∨ m = .outputHandled .resolved ∨
      m = .outputHandled .failed ∨ ∃ n, m = .batchFetched n := by
    cases m with
    | pageUploaded success => cases success <;> simp
    | outputHandled fate => cases fate <;> simp_all [isOfCall]
    | batchFetched n => simp
    | _ => exact nomatch hm
  cases e with
  | dropped q => rcases hcases with rfl | rfl | rfl | rfl | ⟨n, rfl⟩ <;> rfl
  | told s => rcases hcases with rfl | rfl | rfl | rfl | ⟨n, rfl⟩ <;> rfl
  | called q r =>
      rcases hcases with rfl | rfl | rfl | rfl | ⟨n, rfl⟩
      case inr.inr.inr.inr =>
        cases q with
        | fetchKeys token groupId cursor =>
            cases r with
            | error e => rfl
            | ok batch => simp [Event.due?, isOf, Event.batch?]
        | _ => cases r <;> rfl
      all_goals cases q <;> cases r <;> rfl

theorem due?_batch (e : Event) : e.due?.bind batchSize? = e.batch?.map List.length := by
  cases e with
  | called q r => cases q <;> cases r <;> rfl
  | dropped q => rfl
  | told s => rfl

end Metric

namespace Group

open Keyring.Metric Rotation

/-- An operation that was run on a group, and all that its run called and told. -/
structure Observed where
  {α : Type}
  op : Operation α
  before : Group
  ending : Ending (Except Failure α)
  trace : List Event
  after : Group

namespace Observed

def outcome? (e : Observed) : Option Outcome :=
  e.op.outcome? e.ending

def labels (e : Observed) : List FinishLabel :=
  e.trace.filterMap Event.finish?

/-- Whether the server answered a finish run that nothing was pending. -/
def foundNothing (e : Observed) : Bool :=
  e.trace.any Event.foundNothing

end Observed

def Operation.observed {S α : Type} (w : World S) (fuel : Nat) (op : Operation α) (g : Group)
    (s : S) : Observed :=
  ⟨op, g, (op.run w fuel g s).ending, (op.run w fuel g s).trace, (op.run w fuel g s).state⟩

/-- Operations on groups that come up one after the other, each operation in a world of which
nothing is known. Any operation may be broken off, but for those that send pages: no time limit is
set to them, so that they come to their end. -/
inductive Lives : List Group → List Observed → List Group → Prop where
  | start : Lives [] [] []
  | found {founded gs : List Group} {es : List Observed} (h : Lives founded es gs) (g : Group) :
      Lives (founded ++ [g]) es (gs ++ [g])
  | step {S α : Type} {founded gs : List Group} {es : List Observed} {g : Group}
      (h : Lives founded es gs) (i : Nat) (hi : gs[i]? = some g) (w : World S) (fuel : Nat)
      (op : Operation α) (s : S)
      (hended : op.uploads = true → ∃ r, (op.run w fuel g s).ending = .finished r) :
      Lives founded (es ++ [op.observed w fuel g s]) (gs.set i (op.run w fuel g s).state)

def keyCount (gs : List Group) : Nat :=
  (gs.map fun g => g.record.history.size).sum

theorem keyCount_set {gs : List Group} {g g' : Group} {i added : Nat} (hi : gs[i]? = some g)
    (hgrown : g'.record.history.size = g.record.history.size + added) :
    keyCount (gs.set i g') = keyCount gs + added := by
  induction gs generalizing i with
  | nil => exact nomatch hi
  | cons a rest ih =>
      cases i with
      | zero =>
          obtain rfl : a = g := by simpa using hi
          simp only [keyCount, List.set_cons_zero, List.map_cons, List.sum_cons, hgrown]
          omega
      | succ i =>
          have hrest := ih (i := i) (by simpa using hi)
          simp only [keyCount, List.set_cons_succ, List.map_cons, List.sum_cons] at hrest ⊢
          omega

section Lives

variable {founded gs : List Group} {es : List Observed}

def traceOf (es : List Observed) : List Event :=
  es.flatMap Observed.trace

def metricsOf (es : List Observed) : List Metric :=
  (traceOf es).filterMap Event.metric?

theorem Reckoned.exists_tally {size : Nat} {outcome? : Option Outcome} {g : Group} {t : List Event}
    (h : Reckoned size outcome? g t) :
    ∃ nothing, Tally [] size (outcome?.map finishLabel).toList nothing g t := by
  cases outcome? with
  | none => exact h
  | some outcome => exact ⟨_, h.tally⟩

theorem Lives.reckoned (h : Lives founded es gs) :
    ∀ e ∈ es, Reckoned e.before.record.history.size e.outcome? e.after e.trace := by
  induction h with
  | start => simp
  | found _ g ih => exact ih
  | step h i hi w fuel op s hended ih =>
      intro e he
      rcases List.mem_append.mp he with he | he
      · exact ih e he
      · rw [List.mem_singleton.mp he]
        exact op.run_reckoned _ s hended

theorem Lives.grown (h : Lives founded es gs) :
    keyCount gs = keyCount founded + ((traceOf es).map Event.appendedCount).sum := by
  induction h with
  | start => rfl
  | found _ g ih =>
      simp only [keyCount, List.map_append, List.sum_append] at ih ⊢
      omega
  | step h i hi w fuel op s hended ih =>
      obtain ⟨nothing, htally⟩ := (op.run_reckoned _ s hended).exists_tally
      rw [keyCount_set hi htally.grown, ih]
      simp [traceOf, Operation.observed, Nat.add_assoc]

theorem Lives.balanced (h : Lives founded es gs) :
    (traceOf es).filterMap Event.due? = (metricsOf es).filter isOfCall := by
  have hone : ∀ e ∈ es, e.trace.filterMap Event.due? = e.trace.filterMap Event.measured? := by
    intro e he
    obtain ⟨nothing, htally⟩ := (h.reckoned e he).exists_tally
    rw [htally.balanced, List.append_nil]
  rw [metricsOf, List.filter_filterMap, traceOf, List.filterMap_flatMap, List.filterMap_flatMap]
  exact List.flatMap_congr hone

theorem Lives.labels_eq (h : Lives founded es gs) {e : Observed} (he : e ∈ es) :
    e.labels = (e.outcome?.map finishLabel).toList := by
  obtain ⟨nothing, htally⟩ := (h.reckoned e he).exists_tally
  exact htally.labels_eq

theorem Lives.count_eq (h : Lives founded es gs) {m : Metric} (hm : m.isOfCall = true) :
    (metricsOf es).count m = (traceOf es).countP m.isOf := by
  calc (metricsOf es).count m
      = ((metricsOf es).filter isOfCall).count m := (List.count_filter hm).symm
    _ = (traceOf es).countP fun e => e.due? == some m := by
        rw [← h.balanced, List.count_filterMap]
    _ = (traceOf es).countP m.isOf := by
        congr 1
        funext e
        exact due?_beq hm e

theorem Lives.batches (h : Lives founded es gs) :
    (metricsOf es).filterMap batchSize? =
      ((traceOf es).filterMap Event.batch?).map List.length := by
  have hfilter : ((metricsOf es).filter isOfCall).filterMap batchSize? =
      (metricsOf es).filterMap batchSize? := by
    rw [List.filterMap_filter]
    congr 1
    funext m
    cases m with
    | outputHandled fate => cases fate <;> rfl
    | _ => rfl
  rw [← hfilter, ← h.balanced, List.filterMap_filterMap, List.map_filterMap]
  congr 1
  funext e
  exact due?_batch e

theorem Lives.finished (h : Lives founded es gs) :
    (metricsOf es).filterMap Metric.finish? = es.filterMap fun e => e.outcome?.map finishLabel := by
  have hlabels : (metricsOf es).filterMap Metric.finish? = es.flatMap Observed.labels := by
    rw [metricsOf, traceOf, List.filterMap_filterMap, List.filterMap_flatMap]
    rfl
  rw [hlabels, List.filterMap_eq_flatMap_toList]
  exact List.flatMap_congr fun e he => h.labels_eq he

/-- What counters and histograms show, next to what happened. -/
structure Accurate (founded : List Group) (es : List Observed) (gs : List Group) : Prop where
  resolved : counted (labelled "groupkey_rotation_outputs_total" "result" "resolved")
    (metricsOf es) = (traceOf es).countP (Event.returned Request.isCommit)
  failed : counted (labelled "groupkey_rotation_outputs_total" "result" "failed")
    (metricsOf es) = (traceOf es).countP (Event.refused Request.isDerivation)
  fetches : counted "groupkey_key_fetch_calls_total" (metricsOf es) =
    ((traceOf es).filterMap Event.batch?).length
  batches : (recorded "groupkey_key_fetch_batch_size" (metricsOf es)).length =
    ((traceOf es).filterMap Event.batch?).length
  batchKeys : (recorded "groupkey_key_fetch_batch_size" (metricsOf es)).sum =
    ((traceOf es).filterMap Event.batch?).flatten.length
  uploaded : counted (labelled "groupkey_page_uploads_total" "result" "success")
    (metricsOf es) = (traceOf es).countP (Event.returned Request.isUpload)
  notUploaded : counted (labelled "groupkey_page_uploads_total" "result" "failed")
    (metricsOf es) = (traceOf es).countP (Event.refused Request.isUpload)
  finished : ((["noop", "completed", "incomplete"].map fun label =>
      counted (labelled "groupkey_rotation_finish_total" "outcome" label) (metricsOf es)).sum) =
    es.countP (·.outcome?.isSome)
  noop : counted (labelled "groupkey_rotation_finish_total" "outcome" "noop") (metricsOf es) =
    es.countP fun e => e.outcome?.isSome && e.foundNothing
  incomplete : counted (labelled "groupkey_rotation_finish_total" "outcome" "incomplete")
      (metricsOf es) =
    es.countP fun e => e.outcome?.any (!·.unresolved.isEmpty)
  labels : ∀ e ∈ es, (e.outcome? = none → e.labels = []) ∧
    ∀ outcome, e.outcome? = some outcome → ∃ label, e.labels = [label] ∧
      (label = .noop ↔ e.foundNothing = true) ∧ (label = .incomplete ↔ outcome.unresolved ≠ [])
  appended : keyCount gs =
    keyCount founded + counted "groupkey_keys_appended_total" (metricsOf es)

theorem sum_appendedCount (t : List Event) :
    (t.map Event.appendedCount).sum =
      ((t.filterMap Event.metric?).map Metric.appendedCount).sum := by
  induction t with
  | nil => rfl
  | cons e rest ih =>
      rw [List.map_cons, List.sum_cons, ih, Event.appendedCount]
      cases hmetric : e.metric? with
      | none => rw [List.filterMap_cons_none hmetric]; exact Nat.zero_add _
      | some m => rw [List.filterMap_cons_some hmetric]; rfl

theorem sum_count_labels (labels : List FinishLabel) :
    labels.count .noop + (labels.count .completed + labels.count .incomplete) = labels.length := by
  induction labels with
  | nil => rfl
  | cons label rest ih =>
      cases label <;> simp only [List.count_cons, List.length_cons, beq_iff_eq, reduceCtorEq,
        if_true, if_false] <;> omega

theorem Lives.labelled_eq (h : Lives founded es gs) {e : Observed} (he : e ∈ es) :
    (e.outcome? = none → e.labels = []) ∧
      ∀ outcome, e.outcome? = some outcome → ∃ label, e.labels = [label] ∧
        (label = .noop ↔ e.foundNothing = true) ∧
          (label = .incomplete ↔ outcome.unresolved ≠ []) := by
  have hreckoned := h.reckoned e he
  refine ⟨fun hnone => by rw [h.labels_eq he, hnone]; rfl, fun outcome houtcome => ?_⟩
  rw [houtcome] at hreckoned
  refine ⟨finishLabel outcome, hreckoned.tally.labels_eq, ?_, hreckoned.incomplete_iff⟩
  rw [Observed.foundNothing, hreckoned.tally.nothing_eq, beq_iff_eq]

theorem Lives.count_label (h : Lives founded es gs) (label : FinishLabel)
    {p : Observed → Bool} (hp : ∀ e ∈ es, p e = true ↔
      ∃ outcome, e.outcome? = some outcome ∧ finishLabel outcome = label) :
    counted (labelled "groupkey_rotation_finish_total" "outcome" label.name) (metricsOf es) =
      es.countP p := by
  rw [counted_finishes, h.finished, List.count_filterMap]
  refine List.countP_congr fun e he => ?_
  rw [hp e he, beq_iff_eq, Option.map_eq_some_iff]

/-- Whatever was done with groups, and whatever the collaborators answered, the measurements are
right. -/
theorem Lives.accurate (h : Lives founded es gs) : Accurate founded es gs where
  resolved := (counted_outputs _ .resolved).trans (h.count_eq rfl)
  failed := (counted_outputs _ .failed).trans (h.count_eq rfl)
  fetches := by rw [counted_fetches, h.batches, List.length_map]
  batches := by rw [recorded_batches, h.batches, List.length_map]
  batchKeys := by rw [recorded_batches, h.batches, List.length_flatten]
  uploaded := (counted_uploads _ true).trans (h.count_eq rfl)
  notUploaded := (counted_uploads _ false).trans (h.count_eq rfl)
  finished := by
    have hlength : ((metricsOf es).filterMap Metric.finish?).length =
        es.countP (·.outcome?.isSome) := by
      rw [h.finished, List.length_filterMap_eq_countP]
      simp
    rw [← hlength, ← sum_count_labels, ← counted_finishes, ← counted_finishes, ← counted_finishes]
    rfl
  noop := h.count_label .noop fun e he => by
    cases houtcome : e.outcome? with
    | none => simp
    | some outcome =>
        have hreckoned := h.reckoned e he
        rw [houtcome] at hreckoned
        simp [Observed.foundNothing, hreckoned.tally.nothing_eq]
  incomplete := h.count_label .incomplete fun e he => by
    cases houtcome : e.outcome? with
    | none => simp
    | some outcome =>
        have hreckoned := h.reckoned e he
        rw [houtcome] at hreckoned
        simp [hreckoned.incomplete_iff]
  labels := fun e he => h.labelled_eq he
  appended := by rw [h.grown, counted_appended, metricsOf, sum_appendedCount]

section Patchy

open Attempt

variable {h : History}

/-- What the calls of a trace came to, in the order in which `Accurate` speaks of them. -/
def figures (t : List Event) : List Nat := [
  t.countP (Event.returned Request.isCommit),
  t.countP (Event.refused Request.isDerivation),
  (t.filterMap Event.batch?).length,
  (t.filterMap Event.batch?).flatten.length,
  t.countP (Event.returned Request.isUpload),
  t.countP (Event.refused Request.isUpload)]

theorem figures_append (t u : List Event) :
    figures (t ++ u) = List.zipWith (· + ·) (figures t) (figures u) := by
  simp [figures, List.countP_append, List.filterMap_append]

theorem figures_filter_isCall (t : List Event) : figures (t.filter Event.isCall) = figures t := by
  induction t with
  | nil => rfl
  | cons e rest ih =>
      cases e with
      | told s => exact ih
      | called q r =>
          rw [List.filter_cons_of_pos rfl, ← List.singleton_append, figures_append, ih,
            ← figures_append, List.singleton_append]
      | dropped q =>
          rw [List.filter_cons_of_pos rfl, ← List.singleton_append, figures_append, ih,
            ← figures_append, List.singleton_append]

theorem figures_recorded {S α : Type} (w : World S) (fuel : Nat) (p : Program Group α) (g : Group)
    (s : S) : figures (p.run w.recorded fuel g ([], s)).trace =
      figures (p.run w.recorded fuel g ([], s)).world.1 := by
  rw [Program.run_recorded]
  exact (figures_filter_isCall _).symm

/-- Two outputs are pending, and the second is broken; there is one new key, and room for one page
after the first. -/
def patchy : World Unit where
  answer
    | .pendingOutputs .., s => (some (.ok [⟨"first", "output"⟩, ⟨"next", "broken"⟩]), s)
    | .deriveKey _ output _, s =>
      (some (if output.serverOutput = "broken" then .error (.crypto "broken output")
        else .ok (.sample "derived" 2)), s)
    | .commitKey .., s => (some (.ok ()), s)
    | .fetchKeys .., s => (some (.ok [.sample "next" 2]), s)
    | .sealPage payload .., s => (some (.ok payload), s)
    | .openTransfer .., s => (some (.ok "session"), s)
    | .uploadPage _ _ _ _ _ index _, s =>
      (some (if index = 1 then .ok () else .error (.gateway "no room")), s)
    | .writeStore .., s => (some (.ok ()), s)
    | _, s => (none, s)

def mute : World Unit where
  answer _ s := (none, s)

/-- The sample member with a single round. -/
def hasty : Group :=
  { sampleMember with config := { rotation := { maxRounds := 1 } } }

theorem finish_patchy : Ensures patchy.recorded 1 finish
    (fun outcome g x => outcome = .incomplete 1 1 [⟨"next", "broken"⟩] ∧
      (∃ h : History, h.Sound ∧ h.keys = [.sample "first" 1, .sample "next" 2] ∧
        g = hasty.withHistory h) ∧ figures x.1 = [1, 0, 1, 1, 0, 0])
    (fun _ _ _ => False) hasty ([], ()) := by
  have hsound : hasty.record.history.Sound := joined_sample.sound
  have hlast : hasty.record.history.keys.getLast? = some (.sample "first" 1) := rfl
  have hfirst : hasty.record.history.get? "first" = some (.sample "first" 1) :=
    hsound.get?_eq_find? _
  have hnext : hasty.record.history.get? "next" = none := hsound.get?_eq_find? _
  have hrounds : hasty.config.rotation.maxRounds.toNat - 1 = 0 := rfl
  apply finish_of_finishPending (.inl rfl)
  simp only [finishPending, ensures_bind, ensures_get, hrounds]
  refine (ensures_request _).mpr ?_
  show Ensures patchy.recorded 1 _ _ _ _ _
  simp only [List.isEmpty_cons, Bool.false_eq_true, if_false, ensures_bind, ensures_notice, catchUp,
    finishRound, resolveKnown, ensures_get, hfirst]
  refine resolve_of_answers rfl rfl 1 ?_
  simp only [ensures_bind, ensures_get, hnext, ensures_notice, ensures_metric, ensures_pure]
  refine fetchNew_of_sweep (g := { hasty with phase := .finishing }) (r := .ok [.sample "next" 2])
    hsound hlast rfl ?_ (fun e he => by simp at he)
  intro batch hbatch
  obtain rfl := Except.ok.inj hbatch
  refine ⟨⟨by decide, by decide⟩, fun h hsound' hkeys => ?_⟩
  simp only [ensures_bind, ensures_notice, ensures_pure, ensures_metric, List.reverse_singleton,
    List.isEmpty_cons, Bool.false_eq_true, if_false, persist, Record.store, ensures_get]
  refine (ensures_request _).mpr ?_
  exact ⟨rfl, ⟨h, hsound', hkeys, rfl⟩, rfl⟩

theorem finish_patchy_again (hsound : h.Sound)
    (hkeys : h.keys = [.sample "first" 1, .sample "next" 2]) :
    Ensures patchy.recorded 1 finish (fun _ _ _ => False)
      (fun halt g x => (∃ e, halt = .failed e) ∧ g = hasty.withHistory h ∧
        figures x.1 = [1, 1, 0, 0, 0, 0]) (hasty.withHistory h) ([], ()) := by
  have hfirst : h.get? "first" = some (.sample "first" 1) := by
    rw [hsound.get?_eq_find?, hkeys]
    rfl
  have hnext : h.get? "next" = some (.sample "next" 2) := by
    rw [hsound.get?_eq_find?, hkeys]
    rfl
  have hrounds : hasty.config.rotation.maxRounds.toNat - 1 = 0 := rfl
  apply finish_of_finishPending (.inl rfl)
  simp only [finishPending, ensures_bind, ensures_get, hrounds]
  refine (ensures_request _).mpr ?_
  show Ensures patchy.recorded 1 _ _ _ _ _
  simp only [List.isEmpty_cons, Bool.false_eq_true, if_false, ensures_bind, ensures_notice, catchUp,
    finishRound, resolveKnown, ensures_get, hfirst]
  refine resolve_of_answers rfl rfl 1 ?_
  simp only [resolve, ensures_bind, ensures_get, hnext, ensures_tryCatch]
  refine (ensures_request _).mpr ?_
  exact ⟨⟨_, rfl⟩, rfl, rfl⟩

theorem figures_invite_patchy :
    figures ((Operation.invite "guest" "guest-key").run patchy 0 keeper ()).trace =
      [0, 0, 0, 0, 1, 1] := by
  decide +kernel

def isFinished {α : Type} : Ending α → Bool
  | .finished _ => true
  | _ => false

theorem exists_of_isFinished {α : Type} {ending : Ending α} (h : isFinished ending = true) :
    ∃ a, ending = .finished a := by
  cases ending with
  | finished a => exact ⟨a, rfl⟩
  | cut => exact absurd h Bool.false_ne_true
  | exhausted => exact absurd h Bool.false_ne_true

theorem invite_patchy_finished :
    ∃ r, ((Operation.invite "guest" "guest-key").run patchy 0 keeper ()).ending = .finished r :=
  exists_of_isFinished (by decide +kernel)

theorem size_invite_patchy :
    ((Operation.invite "guest" "guest-key").run patchy 0 keeper ()).state.record.history.size =
      3 := by
  decide +kernel

theorem figures_finish_mute (h : History) :
    figures (Operation.finishInTime.run mute 0 (hasty.withHistory h) ()).trace =
      [0, 0, 0, 0, 0, 0] :=
  rfl

/-- A finish run that leaves an output, one that fails, an invitation of which a page is lost, and a
finish run that is cut. -/
theorem Lives.exists_patchy : ∃ es gs, Lives [hasty, keeper] es gs ∧ es.length = 4 ∧
    figures (traceOf es) = [2, 1, 1, 1, 1, 1] ∧
    es.countP (fun e => e.outcome?.any (!·.unresolved.isEmpty)) = 1 ∧
    keyCount gs = keyCount [hasty, keeper] + 1 := by
  obtain ⟨_, _, ⟨calls, _⟩, trace, hrun, rfl, ⟨h, hsound, hkeys, rfl⟩, hfigures⟩ :=
    finish_patchy.exists_run
  obtain ⟨e, _, ⟨calls', _⟩, trace', hagain, rfl, hfigures'⟩ :=
    (finish_patchy_again hsound hkeys).exists_failure
  have htrace := figures_recorded patchy 1 Group.finish.run hasty ()
  have htrace' := figures_recorded patchy 1 Group.finish.run (hasty.withHistory h) ()
  rw [hrun, hfigures] at htrace
  rw [hagain, hfigures'] at htrace'
  have hrun' : Operation.finish.run patchy.recorded 1 hasty ([], ()) = _ := hrun
  have hagain' : Operation.finish.run patchy.recorded 1 (hasty.withHistory h) ([], ()) = _ := hagain
  have hfirst := ((Lives.start.found hasty).found keeper).step 0 rfl patchy.recorded 1 .finish
    ([], ()) nofun
  rw [Operation.observed, hrun'] at hfirst
  have hsecond := hfirst.step 0 rfl patchy.recorded 1 .finish ([], ()) nofun
  rw [Operation.observed, hagain'] at hsecond
  have hthird := hsecond.step 1 rfl patchy 0 (.invite "guest" "guest-key") ()
    fun _ => invite_patchy_finished
  have hlast := hthird.step 0 rfl mute 0 .finishInTime () nofun
  refine ⟨_, _, hlast, rfl, ?_, rfl, ?_⟩
  · simp only [traceOf, List.nil_append, List.cons_append, List.flatMap_cons, List.flatMap_nil,
      figures_append, htrace, htrace', Operation.observed, figures_invite_patchy,
      figures_finish_mute]
    rfl
  · have hsize : h.size = 2 := congrArg List.length hkeys
    show h.size + (((Operation.invite "guest" "guest-key").run patchy 0 keeper
        ()).state.record.history.size + 0) = _
    rw [hsize, size_invite_patchy]
    rfl

theorem Lives.accurate_patchy : ∃ es gs, Lives [hasty, keeper] es gs ∧ es.length = 4 ∧
    Accurate [hasty, keeper] es gs ∧
    counted (labelled "groupkey_rotation_outputs_total" "result" "resolved") (metricsOf es) = 2 ∧
    counted (labelled "groupkey_rotation_outputs_total" "result" "failed") (metricsOf es) = 1 ∧
    counted "groupkey_key_fetch_calls_total" (metricsOf es) = 1 ∧
    (recorded "groupkey_key_fetch_batch_size" (metricsOf es)).sum = 1 ∧
    counted (labelled "groupkey_page_uploads_total" "result" "success") (metricsOf es) = 1 ∧
    counted (labelled "groupkey_page_uploads_total" "result" "failed") (metricsOf es) = 1 ∧
    counted (labelled "groupkey_rotation_finish_total" "outcome" "incomplete") (metricsOf es) = 1 ∧
    counted "groupkey_keys_appended_total" (metricsOf es) = 1 := by
  obtain ⟨es, gs, hlives, hlength, hfigures, hincomplete, hgrown⟩ := Lives.exists_patchy
  have haccurate := Lives.accurate hlives
  simp only [figures, List.cons.injEq, and_true] at hfigures
  obtain ⟨hresolved, hfailed, hfetches, hkeys, huploaded, hlost⟩ := hfigures
  refine ⟨es, gs, hlives, hlength, haccurate, haccurate.resolved.trans hresolved,
    haccurate.failed.trans hfailed, haccurate.fetches.trans hfetches,
    haccurate.batchKeys.trans hkeys, haccurate.uploaded.trans huploaded,
    haccurate.notUploaded.trans hlost, haccurate.incomplete.trans hincomplete, ?_⟩
  have happended := haccurate.appended
  omega

end Patchy

end Lives

end Group

end Keyring
