import Keyring.Group.Operation
import Keyring.Proofs.Group.Fetch
import Keyring.Proofs.Program.Preserves
import Keyring.Proofs.Program.Recorded
import Keyring.Proofs.Program.Requests

namespace Keyring

namespace Group

open Attempt Rotation

variable {S α : Type} {w : World S} {fuel : Nat} {I : Group → S → Prop}

/-- Whether an invariant lasts over a request, whatever the answer. -/
def Outlasts (w : World S) (I : Group → S → Prop) (q : Request) : Prop :=
  ∀ g s, I g s → I g (w.answer q s).2

/-- Whether an invariant lasts while the history takes a batch. -/
def OutlastsGrowth (I : Group → S → Prop) : Prop :=
  ∀ g s batch h, I g s → g.record.history.append batch = .ok h → I (g.withHistory h) s

/-- A group that stands elsewhere in a rotation. -/
abbrev turned (g : Group) (phase : Phase) (keyUpdate : Bool) : Group :=
  { g with record := { g.record with keyUpdate }, phase }

/-- Whether an invariant lasts wherever the group stands in a rotation. -/
def OutlastsTurns (I : Group → S → Prop) : Prop :=
  ∀ g s phase keyUpdate, I g s → I (g.turned phase keyUpdate) s

namespace Operation

/-- Whether an operation may make a request. -/
def asks : {α : Type} → Operation α → Request → Bool
  | _, .persist => Request.isWrite
  | _, .fetch => fun q => q.isFetch || q.isWrite
  | _, .invite .. => Request.sends .invite
  | _, .listJoins _ => Request.isJoinList
  | _, .accept .. => Request.sends .acceptJoinRequest
  | _, .reject _ => Request.isRejection
  | _, .leave => Request.isDeparture
  | _, .prepare => Request.isPreparation
  | _, .publish => Request.isPublication
  | _, .rotate => fun q => q.isPreparation || q.isPublication
  | _, .finish | _, .finishInTime => fun q => q.isInquiry || q.isOfRound || q.isWrite

/-- Whether an operation may add keys. -/
def learns : {α : Type} → Operation α → Bool
  | _, .fetch | _, .finish | _, .finishInTime => true
  | _, _ => false

/-- Whether an operation may go on with a rotation. -/
def turns : {α : Type} → Operation α → Bool
  | _, .prepare | _, .publish | _, .rotate | _, .finish | _, .finishInTime => true
  | _, _ => false

end Operation

section Parts

theorem preserves_persist (hwrite : ∀ q : Request, q.isWrite → Outlasts w I q) :
    Preserves w fuel I persist :=
  Preserves.get.bind fun _ => (Preserves.notice _).bind fun _ => .request (hwrite _ rfl)

theorem preserves_transfer {kind : Transfer.Kind}
    (hsend : ∀ q : Request, q.sends kind → Outlasts w I q) (paging : Config.Paging)
    (recipient recipientKey : String) :
    Preserves w fuel I (transfer paging kind recipient recipientKey) := by
  have hseal : ∀ page, Preserves w fuel I (sealFor recipientKey page) :=
    fun page => (Preserves.request (hsend _ rfl)).bind fun _ => .pure _
  have hupload : ∀ sessionId page, Preserves w fuel I (upload kind sessionId recipient page) :=
    fun sessionId page => Preserves.get.bind fun _ =>
      (Preserves.outcome (.request (hsend _ (by simp [Request.sends])))).bind fun _ => .pure _
  refine Preserves.get.bind fun g => (Preserves.settle _).bind fun first => ?_
  refine (hseal _).bind fun opening =>
    (Preserves.request (hsend _ (by simp [Request.sends]))).bind fun sessionId => ?_
  cases Transfer.Session.ofId sessionId with
  | notRequired => exact (Preserves.notice _).bind fun _ => .pure _
  | opened id =>
      dsimp only
      split
      case' isTrue => refine (Preserves.notice _).bind fun _ => ?_
      all_goals
        exact (Preserves.mapM hseal _).bind fun _ => (Preserves.mapM (hupload _) _).bind fun _ =>
          (Preserves.tellAll _).bind fun _ => (Preserves.notice _).bind fun _ => .pure _

section Growth

variable (hgrow : OutlastsGrowth I)

include hgrow

theorem preserves_append (keys : List Key) : Preserves w fuel I (append keys) := by
  refine .get_bind fun g s h => ?_
  simp only [ensures_bind, ensures_settle]
  cases happend : g.record.history.append keys with
  | error e => exact h
  | ok history =>
      simp only [ensures_tellAll]
      exact hgrow g s keys history h happend

theorem preserves_fetchNew (hfetch : ∀ q : Request, q.isFetch → Outlasts w I q) (token : String)
    (threshold : UInt64) : Preserves w fuel I (fetchNew token threshold) := by
  refine Preserves.get.bind fun g => (Preserves.settle _).bind fun cursor => ?_
  refine (Preserves.gather fun _ => hfetch _ rfl).bind fun gathered => ?_
  dsimp only
  split
  · exact (Preserves.notice _).bind fun _ => preserves_append hgrow _
  · exact preserves_append hgrow _

end Growth

section Rounds

section Resolving

variable (hresolve : ∀ q : Request, q.isResolving → Outlasts w I q)

include hresolve

theorem preserves_resolve (round : Nat) (output : Output) (preKey : Key) :
    Preserves w fuel I (resolve round output preKey) := by
  apply Preserves.get.bind
  intro g
  refine .bind (.tryCatch (.request (hresolve _ rfl)) fun e => ?_) fun key => ?_
  · exact (Preserves.metric _).bind fun _ => .throw _
  · exact (Preserves.request (hresolve _ rfl)).bind fun _ => (Preserves.notice _).bind fun _ =>
      .metric _

theorem preserves_resolveKnown (round resolved : Nat) (deferred outputs : List Output) :
    Preserves w fuel I (resolveKnown round resolved deferred outputs) := by
  induction outputs generalizing resolved deferred with
  | nil => exact .pure _
  | cons output rest ih =>
      apply Preserves.get.bind
      intro g
      split
      · exact (preserves_resolve hresolve _ _ _).bind fun _ => ih _ _
      · exact (Preserves.notice _).bind fun _ => (Preserves.metric _).bind fun _ => ih _ _

end Resolving

variable (hround : ∀ q : Request, q.isOfRound → Outlasts w I q)

include hround

variable (hgrow : OutlastsGrowth I)

include hgrow

theorem preserves_finishRound (round left : Nat) (pending : List Output) :
    Preserves w fuel I (finishRound round left pending) := by
  have hfetch : ∀ q : Request, q.isFetch → Outlasts w I q := by
    intro q hq
    cases q with
    | fetchKeys token groupId cursor => exact hround _ rfl
    | _ => exact nomatch hq
  have hresolve : ∀ q : Request, q.isResolving → Outlasts w I q := by
    intro q hq
    cases q with
    | deriveKey preKey output actor => exact hround _ rfl
    | commitKey token groupId output key => exact hround _ rfl
    | _ => exact nomatch hq
  exact (preserves_resolveKnown hresolve _ _ _ _).bind fun _ => Preserves.get.bind fun _ =>
    (preserves_fetchNew hgrow hfetch _ _).bind fun _ => (Preserves.notice _).bind fun _ => .pure _

theorem preserves_catchUp (round resolved left : Nat) (pending : List Output) :
    Preserves w fuel I (catchUp round resolved left pending) := by
  induction left generalizing round resolved pending with
  | zero => exact (preserves_finishRound hround hgrow _ _ _).bind fun _ => .pure _
  | succ left ih =>
      apply (preserves_finishRound hround hgrow _ _ _).bind
      intro result
      dsimp only
      split
      · exact .pure _
      · exact ih _ _ _

end Rounds

theorem preserves_finishPending (hround : ∀ q : Request, q.isOfRound → Outlasts w I q)
    (hwrite : ∀ q : Request, q.isWrite → Outlasts w I q)
    (hinquiry : ∀ q : Request, q.isInquiry → Outlasts w I q)
    (hgrow : OutlastsGrowth I)
    (hmark : ∀ g s, I g s → I (g.turned g.phase false) s) : Preserves w fuel I finishPending := by
  refine Preserves.get.bind fun g => (Preserves.request (hinquiry _ rfl)).bind fun pending => ?_
  dsimp only
  split
  · exact (Preserves.notice _).bind fun _ => (Preserves.metric _).bind fun _ => .pure _
  · refine (Preserves.notice _).bind fun _ =>
      (preserves_catchUp hround hgrow _ _ _ _).bind fun result => ?_
    have hend : ∀ m (outcome : Outcome), Preserves w fuel I (do
        persist
        Attempt.metric m
        return outcome) :=
      fun _ _ => (preserves_persist hwrite).bind fun _ => (Preserves.metric _).bind fun _ => .pure _
    have hmarked : Preserves w fuel I (modifyRecord ({ · with keyUpdate := false })) :=
      .modify hmark
    refine (Preserves.metric _).bind fun _ => ?_
    split
    · exact hmarked.bind fun _ => (Preserves.notice _).bind fun _ => hend _ _
    · exact (Preserves.notice _).bind fun _ => hend _ _

section Turns

variable (hturn : OutlastsTurns I)

include hturn

theorem preserves_setPhase (phase : Phase) : Preserves w fuel I (setPhase phase) :=
  .modify fun g s h => hturn g s phase g.record.keyUpdate h

theorem preserves_prepare (hprepare : ∀ q : Request, q.isPreparation → Outlasts w I q) :
    Preserves w fuel I prepare := by
  refine Preserves.get.bind fun g => (Preserves.settle _).bind fun _ => ?_
  have hbody : Preserves w fuel I (do
      let latest ← Attempt.settle g.record.history.latest
      let artifact ← Attempt.request (.prepareRotation latest g.actor.publicKey)
      Attempt.notice (.rotationPrepared g.record.groupId artifact.preKeyId)
      setPhase (.prepared artifact)
      return artifact) :=
    (Preserves.settle _).bind fun _ => (Preserves.request (hprepare _ rfl)).bind fun _ =>
      (Preserves.notice _).bind fun _ => (preserves_setPhase hturn _).bind fun _ => .pure _
  split
  · exact hbody
  · exact hbody
  · exact .throw _

theorem preserves_publish (hpublish : ∀ q : Request, q.isPublication → Outlasts w I q) :
    Preserves w fuel I publish := by
  refine .get_bind fun g s h => ?_
  split
  · next artifact _ =>
      -- The group is written as it was before the request, and a request leaves it so.
      have hreply := hpublish (.publishRotation g.actor.token g.record.groupId artifact) rfl g s h
      rw [ensures_bind, ensures_request]
      rcases hanswer : w.answer (.publishRotation g.actor.token g.record.groupId artifact) s with
        ⟨_ | _ | _, s'⟩
      all_goals rw [hanswer] at hreply
      · exact hreply
      · exact hreply
      · exact hturn g s' .published true hreply
  · exact h

theorem preserves_finish (hround : ∀ q : Request, q.isOfRound → Outlasts w I q)
    (hwrite : ∀ q : Request, q.isWrite → Outlasts w I q)
    (hinquiry : ∀ q : Request, q.isInquiry → Outlasts w I q) (hgrow : OutlastsGrowth I) :
    Preserves w fuel I finish := by
  refine Preserves.get.bind fun g => ?_
  have hbody : Preserves w fuel I (do
      setPhase .finishing
      let outcome ← tryCatch finishPending fun e => do
        setPhase g.phase
        throw e
      setPhase (if outcome.isComplete then .idle else g.phase)
      return outcome) := by
    apply (preserves_setPhase hturn _).bind
    intro _
    refine .bind (.tryCatch ?_ fun e => ?_) fun outcome => ?_
    · exact preserves_finishPending hround hwrite hinquiry hgrow fun g s => hturn g s g.phase false
    · exact (preserves_setPhase hturn _).bind fun _ => .throw _
    · exact (preserves_setPhase hturn _).bind fun _ => .pure _
  split
  · exact hbody
  · exact hbody
  · exact .throw _

theorem preserves_finishExpired : Preserves w fuel I finishExpired := by
  have habandon : Preserves w fuel I abandonFinish := by
    refine Preserves.get.bind fun g => ?_
    split
    · exact (preserves_setPhase hturn _).bind fun _ => .notice _
    · exact .pure _
  exact habandon.bind fun _ => Preserves.get.bind fun _ => (Preserves.notice _).bind fun _ =>
    .throw _

end Turns

end Parts

namespace Operation

/-- An operation keeps an invariant if the requests it may make and the changes it may bring about
keep it. -/
theorem preserves (op : Operation α) (hask : ∀ q, op.asks q → Outlasts w I q)
    (hgrow : op.learns → OutlastsGrowth I) (hturn : op.turns → OutlastsTurns I) :
    Preserves w fuel I op.action := by
  cases op with
  | persist => exact preserves_persist hask
  | fetch =>
      have hfetch : ∀ q : Request, q.isFetch → Outlasts w I q :=
        fun q hq => hask q (by simp [asks, hq])
      have hwrite : ∀ q : Request, q.isWrite → Outlasts w I q :=
        fun q hq => hask q (by simp [asks, hq])
      refine Preserves.get.bind fun g => ?_
      refine (preserves_fetchNew (hgrow rfl) hfetch _ _).bind fun added => ?_
      split
      · exact (preserves_persist hwrite).bind fun _ => .pure _
      · exact .pure _
  | invite userId recipientKey =>
      exact Preserves.get.bind fun _ => (Preserves.settle _).bind fun _ =>
        (preserves_transfer hask _ _ _).bind fun _ => .settle _
  | listJoins cursor =>
      exact Preserves.get.bind fun _ => (Preserves.settle _).bind fun _ => .request (hask _ rfl)
  | accept userId recipientKey =>
      exact Preserves.get.bind fun _ => (Preserves.settle _).bind fun _ =>
        (preserves_transfer hask _ _ _).bind fun _ => .settle _
  | reject userId =>
      exact Preserves.get.bind fun _ => (Preserves.settle _).bind fun _ =>
        (Preserves.request (hask _ rfl)).bind fun _ => .notice _
  | leave =>
      exact Preserves.get.bind fun _ => (Preserves.request (hask _ rfl)).bind fun _ => .notice _
  | prepare => exact preserves_prepare (hturn rfl) hask
  | publish => exact preserves_publish (hturn rfl) hask
  | rotate =>
      have hprepare : ∀ q : Request, q.isPreparation → Outlasts w I q :=
        fun q hq => hask q (by simp [asks, hq])
      have hpublish : ∀ q : Request, q.isPublication → Outlasts w I q :=
        fun q hq => hask q (by simp [asks, hq])
      exact (preserves_prepare (hturn rfl) hprepare).bind fun _ =>
        preserves_publish (hturn rfl) hpublish
  | finish | finishInTime =>
      have hround : ∀ q : Request, q.isOfRound → Outlasts w I q :=
        fun q hq => hask q (by simp [asks, hq])
      have hwrite : ∀ q : Request, q.isWrite → Outlasts w I q :=
        fun q hq => hask q (by simp [asks, hq])
      have hinquiry : ∀ q : Request, q.isInquiry → Outlasts w I q :=
        fun q hq => hask q (by simp [asks, hq])
      exact preserves_finish (hturn rfl) hround hwrite hinquiry (hgrow rfl)

theorem run_preserves (op : Operation α) (hask : ∀ q, op.asks q → Outlasts w I q)
    (hgrow : op.learns → OutlastsGrowth I) (hturn : op.turns → OutlastsTurns I)
    (hstart : ∀ limit g s, I g s → I g (w.startTimer limit s))
    (hstop : ∀ g s, I g s → I g (w.stopTimer s)) {g : Group} {s : S} (h : I g s) :
    I (op.run w fuel g s).state (op.run w fuel g s).world := by
  have haction : Preserves w fuel I op.action := op.preserves hask hgrow hturn
  refine (meets_ending (R := fun _ => I)).mp ?_
  cases op with
  | finishInTime =>
      -- If the limit cuts the run, what follows starts from where it was cut.
      rw [run, meets_runWithin]
      refine (haction g _ (hstart _ g s h)).mono (fun _ g' s' h' => hstop g' s' h') ?_
      intro halt g' s' h'
      cases halt with
      | cut => exact preserves_finishExpired (hturn rfl) g' _ (hstop g' s' h')
      | failed e => exact hstop g' s' h'
      | exhausted => exact hstop g' s' h'
  | _ => exact haction g s h

theorem run_recorded (op : Operation α) (g : Group) (calls : List Event) (s : S) :
    op.run w.recorded fuel g (calls, s) =
      ⟨(op.run w fuel g s).ending, (op.run w fuel g s).state,
        (calls ++ (op.run w fuel g s).calls, (op.run w fuel g s).world),
        (op.run w fuel g s).trace⟩ := by
  cases op with
  | finishInTime => exact Program.runWithin_recorded w fuel _ _ _ g calls s
  | _ => exact Program.run_recorded w fuel _ g calls s

theorem calls_asked (op : Operation α) (g : Group) (s : S) :
    ∀ e ∈ (op.run w fuel g s).calls, ∃ q, e.request? = some q ∧ op.asks q := by
  -- The calls made so far are part of the recorded world, so this is an invariant of it.
  let I : Group → List Event × S → Prop :=
    fun _ s => ∀ e ∈ s.1, ∃ q, e.request? = some q ∧ op.asks q
  have hask : ∀ q, op.asks q → Outlasts w.recorded I q := by
    intro q hq g s h e he
    rcases List.mem_append.mp he with he | he
    · exact h e he
    · rw [List.mem_singleton.mp he]
      refine ⟨q, ?_, hq⟩
      cases (w.answer q s.2).1 <;> rfl
  have hrun : I (op.run w.recorded fuel g ([], s)).state (op.run w.recorded fuel g ([], s)).world :=
    op.run_preserves hask (fun _ _ _ _ _ h _ => h) (fun _ _ _ _ _ h => h) (fun _ _ _ h => h)
      (fun _ _ h => h) (by simp [I])
  simpa [I, run_recorded] using hrun

theorem run_stays (op : Operation α) (hturn : op.turns = false) (g : Group) (s : S) :
    (op.run w fuel g s).state.phase = g.phase ∧
      (op.run w fuel g s).state.record.keyUpdate = g.record.keyUpdate :=
  op.run_preserves (w := w)
    (I := fun g' _ => g'.phase = g.phase ∧ g'.record.keyUpdate = g.record.keyUpdate)
    (fun _ _ _ _ h => h) (fun _ _ _ _ _ h _ => h) (fun h => by simp [hturn] at h)
    (fun _ _ _ h => h) (fun _ _ h => h) ⟨rfl, rfl⟩

end Operation

end Group

end Keyring
