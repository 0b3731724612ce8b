import Keyring.Group.Operation
import Keyring.Proofs.Group.Tally
import Keyring.Proofs.Program.Traced

/-!
What operations on a group measure. The measurements of calls are those that the answers call for,
in the same order, however an operation ends. Only pages that were sent are not measured if the
operation is broken off before the last of them.
-/

namespace Keyring.Group

open Attempt Rotation

variable {S α : Type} {w : World S} {fuel : Nat} {size : Nat} {labels : List FinishLabel}
  {nothing : Bool} {g : Group} {t : List Event}

theorem maintains_notice (n : Log.Notice) :
    Maintains w fuel (Tally [] size labels nothing) (Attempt.notice n) :=
  .tellAll fun _ _ h => h.quiet ⟨rfl, rfl, rfl, rfl⟩

theorem maintains_request {q : Request}
    (hq : ∀ g r, Tally [] g.record.history.size [] false g [.called q r]) :
    Maintains w fuel (Tally [] size labels nothing) (Attempt.request q) :=
  .request (fun g _ r h => h.quiet (hq g r)) fun _ _ h => h.quiet ⟨rfl, rfl, rfl, rfl⟩

theorem maintains_persist : Maintains w fuel (Tally [] size labels nothing) persist :=
  .get_bind fun _ => (maintains_notice _).bind fun _ =>
    maintains_request fun _ _ => ⟨rfl, rfl, rfl, rfl⟩

theorem size_of_append {h h' : History} {batch : List Key} (happend : h.append batch = .ok h') :
    h'.size = h.size + batch.length := by
  rw [History.append] at happend
  split at happend
  · exact nomatch happend
  · rw [← Except.ok.inj happend]
    exact List.length_append

theorem tally_appended {h : History} {keys : List Key}
    (happend : g.record.history.append keys = .ok h) (position : Nat) :
    Tally [] g.record.history.size [] false { g with record := { g.record with history := h } }
      ((Signal.appended position keys).map .told) := by
  have hindexed : ∀ (position : Nat) (keys : List Key), Tally [] g.record.history.size [] false g
      ((Signal.indexed position keys).map .told) := by
    intro position keys
    induction keys generalizing position with
    | nil => exact .start g
    | cons k rest ih =>
        exact Tally.quiet (t := [.told (.notice (.keyIndexed k.id position))])
          ⟨rfl, rfl, rfl, rfl⟩ (ih (position + 1))
  rw [Signal.appended, List.map_append]
  refine (hindexed position keys).extend ⟨rfl, ?_, rfl, rfl⟩
  exact size_of_append happend

theorem maintains_append (keys : List Key) :
    Maintains w fuel (Tally [] size labels nothing) (append keys) := by
  intro g t h
  refine traced_bind (traced_get (traced_bind (traced_settle ?_)))
  cases happend : g.record.history.append keys with
  | error e => exact h
  | ok history =>
      refine traced_bind (traced_tellAll (traced_bind (traced_set (traced_pure ?_))))
      simpa using h.extend (tally_appended happend _)

theorem maintains_gather (sweep : Sweep) :
    Maintains w fuel (Tally [] size labels nothing) (gather sweep) := by
  refine .gather ?_ ?_ ?_
  · exact fun sweep batch g t h => h.quiet ⟨rfl, rfl, rfl, rfl⟩
  · exact fun sweep e g t h => h.quiet ⟨rfl, rfl, rfl, rfl⟩
  · exact fun sweep g t h => h.quiet ⟨rfl, rfl, rfl, rfl⟩

theorem maintains_fetchNew (token : String) (threshold : UInt64) :
    Maintains w fuel (Tally [] size labels nothing) (fetchNew token threshold) := by
  refine .get_bind fun g => (Maintains.settle _).bind fun cursor =>
    (maintains_gather _).bind fun gathered => ?_
  dsimp only
  split
  · exact (maintains_notice _).bind fun _ => maintains_append _
  · exact maintains_append _

theorem maintains_fetch : Maintains w fuel (Tally [] size labels nothing) fetch := by
  refine .get_bind fun g => (maintains_fetchNew _ _).bind fun added => ?_
  split
  · exact maintains_persist.bind fun _ => .pure _
  · exact .pure _

theorem maintains_resolve (round : Nat) (output : Output) (preKey : Key) :
    Maintains w fuel (Tally [] size labels nothing) (resolve round output preKey) := by
  intro g t h
  refine traced_bind (traced_get (traced_bind (traced_tryCatch (traced_request ?_ ?_ ?_))))
  · intro key
    have hderived := h.quiet (u := [.called (.deriveKey preKey output g.actor) (.ok key)])
      ⟨rfl, rfl, rfl, rfl⟩
    refine traced_bind (traced_request ?_ ?_ ?_)
    · intro answer
      refine traced_bind (traced_tellAll (traced_tellAll ?_))
      rw [List.append_assoc, List.append_assoc]
      exact hderived.quiet ⟨rfl, rfl, rfl, rfl⟩
    · exact fun e => hderived.quiet ⟨rfl, rfl, rfl, rfl⟩
    · exact hderived.quiet ⟨rfl, rfl, rfl, rfl⟩
  · intro e
    refine traced_bind (traced_tellAll (traced_throw ?_))
    rw [List.append_assoc]
    exact h.quiet ⟨rfl, rfl, rfl, rfl⟩
  · exact h.quiet ⟨rfl, rfl, rfl, rfl⟩

theorem maintains_resolveKnown (round resolved : Nat) (deferred outputs : List Output) :
    Maintains w fuel (Tally [] size labels nothing)
      (resolveKnown round resolved deferred outputs) := by
  induction outputs generalizing resolved deferred with
  | nil => exact .pure _
  | cons output rest ih =>
      refine .get_bind fun g => ?_
      split
      · exact (maintains_resolve _ _ _).bind fun _ => ih _ _
      · have hmetric : Maintains w fuel (Tally [] size labels nothing)
            (Attempt.metric (.outputHandled .deferred)) :=
          .tellAll fun _ _ h => h.quiet ⟨rfl, rfl, rfl, rfl⟩
        exact (maintains_notice _).bind fun _ => hmetric.bind fun _ => ih _ _

theorem maintains_finishRound (round left : Nat) (pending : List Output) :
    Maintains w fuel (Tally [] size labels nothing) (finishRound round left pending) :=
  (maintains_resolveKnown _ _ _ _).bind fun _ => .get_bind fun _ => (maintains_fetchNew _ _).bind
    fun _ => (maintains_notice _).bind fun _ => .pure _

theorem tallied_catchUp (h : Tally [] size labels nothing g t) (round resolved left : Nat)
    (pending : List Output) :
    Traced w fuel (catchUp round resolved left pending)
      (fun r g t => round ≤ r.2.1 ∧ Tally [] size labels nothing g t)
      (fun _ => Tally [] size labels nothing) g t := by
  induction left generalizing round resolved pending g t with
  | zero =>
      refine traced_bind ((maintains_finishRound _ _ _ _ _ h).mono ?_ fun _ _ _ hx => hx)
      exact fun r g t hr => traced_pure ⟨Nat.le_refl _, hr⟩
  | succ left ih =>
      refine traced_bind ((maintains_finishRound _ _ _ _ _ h).mono ?_ fun _ _ _ hx => hx)
      intro r g t hr
      dsimp only
      split
      · exact traced_pure ⟨Nat.le_refl _, hr⟩
      · refine (ih hr (round + 1) _ _).mono ?_ fun _ _ _ hx => hx
        rintro r g t ⟨hround, ht⟩
        exact ⟨Nat.le_of_succ_le hround, ht⟩

/-- Where a trace stands behind a finish run without an outcome, or another operation. -/
abbrev Unfinished (size : Nat) (g : Group) (t : List Event) : Prop :=
  ∃ nothing, Tally [] size [] nothing g t

/-- Where a trace stands behind a finish run with an outcome. -/
structure Finished (size : Nat) (outcome : Outcome) (g : Group) (t : List Event) : Prop where
  tally : Tally [] size [finishLabel outcome] (finishLabel outcome == .noop) g t
  incomplete_iff : finishLabel outcome = .incomplete ↔ outcome.unresolved ≠ []

theorem traced_concluded {outcome : Outcome} (h : Tally [] size [] false g t)
    (hlabel : finishLabel outcome ≠ .noop)
    (hincomplete : finishLabel outcome = .incomplete ↔ outcome.unresolved ≠ []) :
    Traced w fuel (do
        persist
        Attempt.metric (.finishEnded (finishLabel outcome))
        return outcome)
      (Finished size) (fun _ => Unfinished size) g t := by
  refine traced_bind ((maintains_persist _ _ h).mono ?_ fun _ _ _ hx => ⟨_, hx⟩)
  intro _ g t ht
  refine traced_bind (traced_tellAll (traced_pure ⟨?_, hincomplete⟩))
  have hnoop : (finishLabel outcome == .noop) = false := by simpa using hlabel
  rw [hnoop]
  exact ht.extend ⟨rfl, rfl, rfl, rfl⟩

theorem traced_finishPending (h : Tally [] size [] false g t) :
    Traced w fuel finishPending (Finished size) (fun _ => Unfinished size) g t := by
  refine traced_bind (traced_get (traced_bind (traced_request ?_ ?_ ?_)))
  · intro (pending : List Output)
    cases pending with
    | nil =>
        refine traced_bind (traced_tellAll (traced_bind (traced_tellAll (traced_pure ?_))))
        refine ⟨?_, by simp [finishLabel, Outcome.unresolved]⟩
        rw [List.append_assoc, List.append_assoc]
        exact h.extend ⟨rfl, rfl, rfl, rfl⟩
    | cons output rest =>
        refine traced_bind (traced_tellAll ?_)
        have hasked := h.quiet (u := [.called (.pendingOutputs g.actor.token g.record.groupId)
          (.ok (output :: rest))]) ⟨rfl, rfl, rfl, rfl⟩
        refine traced_bind ((tallied_catchUp (hasked.notice _) _ _ _ _).mono ?_
          fun _ _ _ hx => ⟨_, hx⟩)
        rintro ⟨resolved, rounds, waiting⟩ g t ⟨hrounds, ht⟩
        simp only at hrounds
        have hused := ht.quiet (u := [.told (.metric (.roundsUsed rounds))]) ⟨rfl, rfl, rfl, rfl⟩
        refine traced_bind (traced_tellAll ?_)
        cases waiting with
        | nil =>
            -- A run with no rounds would count as one that found nothing.
            obtain ⟨more, rfl⟩ : ∃ more, rounds = more + 1 := ⟨rounds - 1, by omega⟩
            have hmark : Maintains w fuel (Tally [] size [] false)
                (modifyRecord ({ · with keyUpdate := false })) :=
              .modify fun _ _ h => h.of_size_eq rfl
            refine traced_bind ((hmark _ _ hused).mono ?_ fun _ _ _ hx => ⟨_, hx⟩)
            intro _ g t ht
            refine traced_bind ((maintains_notice _ _ _ ht).mono ?_ fun _ _ _ hx => ⟨_, hx⟩)
            exact fun _ g t ht => traced_concluded ht nofun
              (by simp [finishLabel, Outcome.unresolved])
        | cons output rest =>
            refine traced_bind ((maintains_notice _ _ _ hused).mono ?_ fun _ _ _ hx => ⟨_, hx⟩)
            exact fun _ g t ht => traced_concluded ht nofun
              (by simp [finishLabel, Outcome.unresolved])
  · exact fun e => ⟨_, h.quiet ⟨rfl, rfl, rfl, rfl⟩⟩
  · exact ⟨_, h.quiet ⟨rfl, rfl, rfl, rfl⟩⟩

theorem traced_setPhase {Q : Unit → Group → List Event → Prop}
    {X : Halt → Group → List Event → Prop} {phase : Phase} (h : Q () { g with phase } t) :
    Traced w fuel (setPhase phase) Q X g t :=
  traced_bind (traced_get (traced_set h))

theorem traced_finish (h : Tally [] size [] false g t) :
    Traced w fuel finish (Finished size) (fun _ => Unfinished size) g t := by
  have hbody : Traced w fuel (do
      setPhase .finishing
      let outcome ← tryCatch finishPending fun e => do
        setPhase g.phase
        throw e
      setPhase (if outcome.isComplete then .idle else g.phase)
      return outcome) (Finished size) (fun _ => Unfinished size) g t := by
    have hbegun : Tally [] size [] false { g with phase := .finishing } t := h.of_size_eq rfl
    refine traced_bind (traced_setPhase (traced_bind (traced_tryCatch
      ((traced_finishPending hbegun).mono ?_ ?_))))
    · intro outcome g' t' hfinished
      exact traced_bind (traced_setPhase (traced_pure
        ⟨hfinished.tally.of_size_eq rfl, hfinished.incomplete_iff⟩))
    · rintro halt g' t' ⟨nothing, h'⟩
      cases halt with
      | failed e =>
          exact traced_bind (traced_setPhase (traced_throw ⟨nothing, h'.of_size_eq rfl⟩))
      | cut => exact ⟨nothing, h'⟩
      | exhausted => exact ⟨nothing, h'⟩
  refine traced_bind (traced_get ?_)
  split
  · exact hbody
  · exact hbody
  · exact traced_throw ⟨false, h⟩

theorem maintains_setPhase (phase : Phase) :
    Maintains w fuel (Tally [] size labels nothing) (setPhase phase) :=
  .modify fun _ _ h => h.of_size_eq rfl

theorem traced_finishExpired (h : Tally [] size labels nothing g t)
    {Q : Outcome → Group → List Event → Prop} :
    Traced w fuel finishExpired Q (fun _ => Tally [] size labels nothing) g t := by
  have habandon : Maintains w fuel (Tally [] size labels nothing) abandonFinish := by
    refine .get_bind fun g => ?_
    split
    · exact (maintains_setPhase _).bind fun _ => maintains_notice _
    · exact .pure _
  refine traced_bind ((habandon g t h).mono ?_ fun _ _ _ hx => hx)
  exact fun _ g' t' h' => traced_bind (traced_get (traced_bind (traced_tellAll
    (traced_throw (h'.notice _)))))

section Transfer

open Transfer

theorem Tally.upload {owed : List Metric} (h : Tally owed size labels nothing g t) (kind : Kind)
    (sessionId recipient : String) (page : SealedPage) (result : Except Failure Unit) :
    Tally (owed ++ [.pageUploaded (PageResult.succeeded ⟨page.index, page.keyCount, result⟩)]) size
      labels nothing g (t ++ [.called (.uploadPage g.actor.token kind g.record.groupId sessionId
        recipient page.index page.payload) result]) := by
  apply h.owe
  cases result with
  | ok _ => exact ⟨rfl, rfl, rfl, rfl⟩
  | error e => exact ⟨rfl, rfl, rfl, rfl⟩

theorem traced_uploads {owed : List Metric} (h : Tally owed size labels nothing g t) (kind : Kind)
    (sessionId recipient : String) (pages : List SealedPage) :
    Traced w fuel (pages.mapM (upload kind sessionId recipient))
      (fun results => Tally (owed ++ results.map fun p => .pageUploaded p.succeeded) size labels
        nothing)
      (fun halt _ _ => ∀ e, halt ≠ .failed e) g t := by
  induction pages generalizing owed t with
  | nil => exact traced_pure (by simpa using h)
  | cons page rest ih =>
      rw [List.mapM_cons]
      have hnext : ∀ result : Except Failure Unit, Traced w fuel
          (do
            let results ← rest.mapM (upload kind sessionId recipient)
            return ⟨page.index, page.keyCount, result⟩ :: results)
          (fun results => Tally (owed ++ results.map fun p => .pageUploaded p.succeeded) size labels
            nothing)
          (fun halt _ _ => ∀ e, halt ≠ .failed e) g
          (t ++ [.called (.uploadPage g.actor.token kind g.record.groupId sessionId recipient
            page.index page.payload) result]) := by
        intro result
        refine traced_bind ((ih (h.upload kind sessionId recipient page result)).mono ?_
          fun _ _ _ hx => hx)
        exact fun results g t hx => traced_pure (by simpa using hx)
      refine traced_bind (traced_bind (traced_get (traced_bind (traced_outcome
        (traced_request ?_ ?_ nofun)))))
      · exact fun _ => traced_pure (hnext (.ok ()))
      · exact fun e => traced_pure (hnext (.error e))

theorem Tally.settleUploads {results : List PageResult}
    (h : Tally (results.map fun p => .pageUploaded p.succeeded) size labels nothing g t)
    (sessionId : String) : Tally [] size labels nothing g
      (t ++ (results.flatMap (uploadSignals sessionId)).map .told) := by
  induction results generalizing t with
  | nil => simpa using h
  | cons p rest ih =>
      rw [List.flatMap_cons, List.map_append, ← List.append_assoc]
      obtain ⟨index, keyCount, result⟩ := p
      cases result with
      | ok _ => exact ih h.pay
      | error e =>
          have hpaid : Tally (rest.map fun p => .pageUploaded p.succeeded) size labels nothing g
              (t ++ [.told (.metric (.pageUploaded false))]) := h.pay
          apply ih
          simpa [uploadSignals] using hpaid.notice
            (.pageUploadFailed sessionId index.toNat e.message)

theorem maintains_sealFor (recipientKey : String) (page : Page) :
    Maintains w fuel (Tally [] size labels nothing) (sealFor recipientKey page) :=
  (maintains_request fun _ _ => ⟨rfl, rfl, rfl, rfl⟩).bind fun _ => .pure _

theorem traced_transfer (h : Tally [] size labels nothing g t) (paging : Config.Paging)
    (kind : Kind) (recipient recipientKey : String) :
    Traced w fuel (transfer paging kind recipient recipientKey)
      (fun _ => Tally [] size labels nothing)
      (fun halt g t => (∃ e, halt = .failed e) → Tally [] size labels nothing g t) g t := by
  refine traced_bind (traced_get (traced_bind ((Maintains.settle _ g t h).mono ?_
    fun _ _ _ hx _ => hx)))
  intro first g₁ t₁ h₁
  refine traced_bind ((maintains_sealFor _ _ g₁ t₁ h₁).mono ?_ fun _ _ _ hx _ => hx)
  intro opening g₂ t₂ h₂
  have hopen : ∀ keyCount rank payload, Maintains w fuel (Tally [] size labels nothing)
      (Attempt.request (.openTransfer g.actor.token kind g.record.groupId recipient keyCount rank
        payload)) :=
    fun _ _ _ => maintains_request fun _ _ => ⟨rfl, rfl, rfl, rfl⟩
  refine traced_bind ((hopen _ _ _ g₂ t₂ h₂).mono ?_ fun _ _ _ hx _ => hx)
  intro sessionId g₃ t₃ h₃
  cases Session.ofId sessionId with
  | notRequired => exact traced_bind (traced_tellAll (traced_pure (h₃.notice _)))
  | opened id =>
      dsimp only
      split
      case' isTrue =>
        refine traced_bind ((maintains_notice _ g₃ t₃ h₃).mono ?_ fun _ _ _ hx _ => hx)
        intro _ g₃ t₃ h₃
      all_goals
        refine traced_bind ((Maintains.mapM (maintains_sealFor _) _ g₃ t₃ h₃).mono ?_
          fun _ _ _ hx _ => hx)
        intro pages g₄ t₄ h₄
        -- The measurements of the pages come after the last page, so a run that is broken off
        -- between two pages owes them.
        refine traced_bind ((traced_uploads h₄ _ _ _ _).mono ?_ ?_)
        · intro results g₅ t₅ h₅
          exact traced_bind (traced_tellAll (traced_bind (traced_tellAll
            (traced_pure ((h₅.settleUploads id).notice _)))))
        · rintro halt _ _ hhalt ⟨e, rfl⟩
          exact absurd rfl (hhalt e)

theorem traced_sending (h : Tally [] size labels nothing g t) (check : Group → Except Failure Unit)
    (kind : Kind) (recipient recipientKey : String) :
    Traced w fuel (do
        let g ← Attempt.get
        Attempt.settle (check g)
        let report ← transfer g.config.keys kind recipient recipientKey
        Attempt.settle report.result)
      (fun _ => Tally [] size labels nothing)
      (fun halt g t => (∃ e, halt = .failed e) → Tally [] size labels nothing g t) g t := by
  refine traced_bind (traced_get (traced_bind ((Maintains.settle _ g t h).mono ?_
    fun _ _ _ hx _ => hx)))
  intro _ g₁ t₁ h₁
  refine traced_bind ((traced_transfer h₁ _ _ _ _).mono ?_ fun _ _ _ hx => hx)
  exact fun report g₂ t₂ h₂ => (Maintains.settle _ g₂ t₂ h₂).mono (fun _ _ _ hx => hx)
    fun _ _ _ hx _ => hx

end Transfer

section Rotating

theorem maintains_prepare : Maintains w fuel (Tally [] size labels nothing) prepare := by
  refine .get_bind fun g => (Maintains.settle _).bind fun _ => ?_
  have hbody : Maintains w fuel (Tally [] size labels nothing) (do
      let latest ← Attempt.settle g.record.history.latest
      let artifact ← Attempt.request (.prepareRotation latest g.actor.publicKey)
      Attempt.notice (.rotationPrepared g.record.groupId artifact.preKeyId)
      setPhase (.prepared artifact)
      return artifact) :=
    (Maintains.settle _).bind fun _ =>
      (maintains_request fun _ _ => ⟨rfl, rfl, rfl, rfl⟩).bind fun _ =>
        (maintains_notice _).bind fun _ => (maintains_setPhase _).bind fun _ => .pure _
  split
  · exact hbody
  · exact hbody
  · exact .throw _

theorem maintains_publish : Maintains w fuel (Tally [] size labels nothing) publish := by
  intro g t h
  refine traced_bind (traced_get ?_)
  split
  · next artifact _ =>
      have hcalled : ∀ r, Tally [] size labels nothing g
          (t ++ [.called (.publishRotation g.actor.token g.record.groupId artifact) r]) :=
        fun r => h.quiet ⟨rfl, rfl, rfl, rfl⟩
      refine traced_bind (traced_request ?_ ?_ ?_)
      · intro answer
        exact traced_bind (traced_tellAll (traced_set
          (((hcalled (.ok answer)).notice _).of_size_eq rfl)))
      · exact fun e => hcalled (.error e)
      · exact h.quiet ⟨rfl, rfl, rfl, rfl⟩
  · exact traced_throw h

end Rotating

/-- Where a trace stands behind an operation that may have ended with an outcome. -/
def Reckoned (size : Nat) : Option Outcome → Group → List Event → Prop
  | some outcome => Finished size outcome
  | none => Unfinished size

namespace Operation

/-- The outcome of a finish run that has one. -/
def outcome? : {α : Type} → Operation α → Ending (Except Failure α) → Option Outcome
  | _, .finish, .finished (.ok outcome) => some outcome
  | _, .finishInTime, .finished (.ok outcome) => some outcome
  | _, _, _ => none

/-- Whether an operation sends pages. -/
def uploads : {α : Type} → Operation α → Bool
  | _, .invite .. | _, .accept .. => true
  | _, _ => false

section Reckoned

variable {op : Operation α} {s : S}

theorem reckoned_of_maintains (hrun : op.run w fuel g s = op.action.run.run w fuel g s)
    (houtcome : ∀ ending, op.outcome? ending = none)
    (h : Maintains w fuel (Tally [] g.record.history.size [] false) op.action) :
    Reckoned g.record.history.size (op.outcome? (op.run w fuel g s).ending)
      (op.run w fuel g s).state (op.run w fuel g s).trace := by
  rw [houtcome, hrun]
  have hmeets := h g [] (.start g) s
  exact ⟨false, meets_ending (R := fun _ => Tally [] g.record.history.size [] false) |>.mp hmeets⟩

theorem reckoned_of_ended (hrun : op.run w fuel g s = op.action.run.run w fuel g s)
    (houtcome : ∀ ending, op.outcome? ending = none)
    (hended : ∃ r, (op.run w fuel g s).ending = .finished r)
    (h : Traced w fuel op.action (fun _ => Tally [] g.record.history.size [] false)
      (fun halt g' t => (∃ e, halt = .failed e) → Tally [] g.record.history.size [] false g' t)
      g []) :
    Reckoned g.record.history.size (op.outcome? (op.run w fuel g s).ending)
      (op.run w fuel g s).state (op.run w fuel g s).trace := by
  obtain ⟨r, hr⟩ := hended
  rw [houtcome]
  rw [hrun] at hr ⊢
  have hmeets := h s
  simp only [Meets, Run.traced, hr] at hmeets
  cases r with
  | ok x => exact ⟨false, hmeets⟩
  | error e => exact ⟨false, hmeets ⟨e, rfl⟩⟩

theorem finish_reckoned (g : Group) (s : S) :
    Reckoned g.record.history.size (finish.outcome? (finish.run w fuel g s).ending)
      (finish.run w fuel g s).state (finish.run w fuel g s).trace := by
  have hfinish : Traced w fuel Group.finish (Finished g.record.history.size)
      (fun halt => Reckoned g.record.history.size (finish.outcome? halt.ending)) g [] :=
    (traced_finish (.start g)).mono (fun _ _ _ h => h) fun halt _ _ h => by
      cases halt <;> exact h
  exact (meets_ending (R := fun ending =>
    Reckoned g.record.history.size (finish.outcome? ending))).mp (hfinish s)

theorem finishInTime_reckoned (g : Group) (s : S) :
    Reckoned g.record.history.size (finishInTime.outcome? (finishInTime.run w fuel g s).ending)
      (finishInTime.run w fuel g s).state (finishInTime.run w fuel g s).trace := by
  have hstart : Tally [] g.record.history.size [] false g [] := .start g
  have hmeets : Meets (Finished g.record.history.size)
      (fun halt => Reckoned g.record.history.size (finishInTime.outcome? halt.ending))
      ((finishInTime.run w fuel g s).traced []) := by
    refine traced_runWithin ((traced_finish hstart).mono (fun _ _ _ h => h) ?_) s
    rintro halt g' t' ⟨nothing, h'⟩
    cases halt with
    | failed e => exact ⟨nothing, h'⟩
    | exhausted => exact ⟨nothing, h'⟩
    | cut =>
        refine (traced_finishExpired h').mono (fun _ _ _ h => h) fun halt _ _ hx => ?_
        cases halt <;> exact ⟨nothing, hx⟩
  exact (meets_ending (R := fun ending =>
    Reckoned g.record.history.size (finishInTime.outcome? ending))).mp hmeets

end Reckoned

/-- An operation is reckoned up however it ends, unless it sends pages and is broken off. -/
theorem run_reckoned (op : Operation α) (g : Group) (s : S)
    (hended : op.uploads = true → ∃ r, (op.run w fuel g s).ending = .finished r) :
    Reckoned g.record.history.size (op.outcome? (op.run w fuel g s).ending)
      (op.run w fuel g s).state (op.run w fuel g s).trace := by
  cases op with
  | persist => exact reckoned_of_maintains rfl (fun _ => rfl) maintains_persist
  | fetch => exact reckoned_of_maintains rfl (fun _ => rfl) maintains_fetch
  | listJoins cursor =>
      exact reckoned_of_maintains rfl (fun _ => rfl) (.get_bind fun _ =>
        (Maintains.settle _).bind fun _ => maintains_request fun _ _ => ⟨rfl, rfl, rfl, rfl⟩)
  | reject userId =>
      exact reckoned_of_maintains rfl (fun _ => rfl) (.get_bind fun _ =>
        (Maintains.settle _).bind fun _ =>
          (maintains_request fun _ _ => ⟨rfl, rfl, rfl, rfl⟩).bind fun _ => maintains_notice _)
  | leave =>
      exact reckoned_of_maintains rfl (fun _ => rfl) (.get_bind fun _ =>
        (maintains_request fun _ _ => ⟨rfl, rfl, rfl, rfl⟩).bind fun _ => maintains_notice _)
  | prepare => exact reckoned_of_maintains rfl (fun _ => rfl) maintains_prepare
  | publish => exact reckoned_of_maintains rfl (fun _ => rfl) maintains_publish
  | rotate =>
      exact reckoned_of_maintains rfl (fun _ => rfl)
        (maintains_prepare.bind fun _ => maintains_publish)
  | invite userId recipientKey =>
      exact reckoned_of_ended rfl (fun _ => rfl) (hended rfl)
        (traced_sending (.start g) (fun g => g.record.requireRank _ g.config.ranks.invite) _ _ _)
  | accept userId recipientKey =>
      exact reckoned_of_ended rfl (fun _ => rfl) (hended rfl)
        (traced_sending (.start g) (fun g => g.record.requireRank _ g.config.ranks.joinRequests)
          _ _ _)
  | finish => exact finish_reckoned g s
  | finishInTime => exact finishInTime_reckoned g s

end Operation

end Keyring.Group
