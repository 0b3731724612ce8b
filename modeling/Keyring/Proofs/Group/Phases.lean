import Keyring.Proofs.Group.Finish
import Keyring.Proofs.Group.Life

namespace Keyring

namespace Rotation.Phase

def mayPrepare : Phase → Bool
  | idle | prepared _ => true
  | published | finishing => false

def mayFinish : Phase → Bool
  | idle | published => true
  | prepared _ | finishing => false

/-- The artifact that is prepared and not yet published. -/
def artifact? : Phase → Option Artifact
  | prepared artifact => some artifact
  | _ => none

end Rotation.Phase

namespace Group

open Attempt Rotation

variable {S : Type} {w : World S} {fuel : Nat} {g : Group} {s : S}

/-- Whether a member may prepare a rotation, and from which key. -/
structure MayPrepare (g : Group) (latest : Key) : Prop where
  rank : g.record.rank ≤ g.config.ranks.rotation
  phase : g.phase.mayPrepare
  latest_eq : g.record.history.keys.getLast? = some latest

inductive Prepares (g : Group) : Ending (Except Failure Artifact) → List Event → Group → Prop where
  | denied (hrank : g.config.ranks.rotation < g.record.rank) :
      Prepares g (.finished (.error (.permissionDenied "rotate keys" g.record.rank
        g.config.ranks.rotation))) [] g
  | refused (hrank : g.record.rank ≤ g.config.ranks.rotation)
      (hphase : g.phase.mayPrepare = false) :
      Prepares g (.finished (.error (.invalidPhase "idle" g.phase.name))) [] g
  | keyless (hrank : g.record.rank ≤ g.config.ranks.rotation) (hphase : g.phase.mayPrepare)
      (hkeys : g.record.history.keys = []) : Prepares g (.finished (.error .emptyHistory)) [] g
  | prepared {latest : Key} (h : MayPrepare g latest) (artifact : Artifact) :
      Prepares g (.finished (.ok artifact))
        [.called (.prepareRotation latest g.actor.publicKey) (.ok artifact)]
        { g with phase := .prepared artifact }
  | failed {latest : Key} (h : MayPrepare g latest) (e : Failure) :
      Prepares g (.finished (.error e))
        [.called (.prepareRotation latest g.actor.publicKey) (.error e)] g
  | dropped {latest : Key} (h : MayPrepare g latest) :
      Prepares g .cut [.dropped (.prepareRotation latest g.actor.publicKey)] g

inductive Publishes (g : Group) : Ending (Except Failure Unit) → List Event → Group → Prop where
  | refused (hphase : g.phase.artifact? = none) :
      Publishes g (.finished (.error (.invalidPhase "prepared" g.phase.name))) [] g
  | published {artifact : Artifact} (hphase : g.phase = .prepared artifact) :
      Publishes g (.finished (.ok ()))
        [.called (.publishRotation g.actor.token g.record.groupId artifact) (.ok ())]
        (g.turned .published true)
  | failed {artifact : Artifact} (hphase : g.phase = .prepared artifact) (e : Failure) :
      Publishes g (.finished (.error e))
        [.called (.publishRotation g.actor.token g.record.groupId artifact) (.error e)] g
  | dropped {artifact : Artifact} (hphase : g.phase = .prepared artifact) :
      Publishes g .cut [.dropped (.publishRotation g.actor.token g.record.groupId artifact)] g

inductive Rotates (g : Group) : Ending (Except Failure Unit) → List Event → Group → Prop where
  | unprepared (halt : Halt) {calls : List Event} {g' : Group}
      (h : Prepares g halt.ending calls g') : Rotates g halt.ending calls g'
  | prepared {artifact : Artifact} {ending : Ending (Except Failure Unit)}
      {calls calls' : List Event} {g₁ g' : Group}
      (h : Prepares g (.finished (.ok artifact)) calls g₁)
      (h' : Publishes g₁ ending calls' g') : Rotates g ending (calls ++ calls') g'

inductive Finishes (g : Group) : Ending (Except Failure Outcome) → List Event → Group → Prop where
  | refused (hphase : g.phase.mayFinish = false) :
      Finishes g (.finished (.error (.invalidPhase "idle or published" g.phase.name))) [] g
  | ended (hphase : g.phase.mayFinish) {outcome : Outcome} {calls : List Event} {g' : Group}
      (hend : g'.phase = if outcome.isComplete then .idle else g.phase) :
      Finishes g (.finished (.ok outcome)) calls g'
  | failed (hphase : g.phase.mayFinish) {e : Failure} {calls : List Event} {g' : Group}
      (hend : g'.phase = g.phase) : Finishes g (.finished (.error e)) calls g'
  | brokenOff (hphase : g.phase.mayFinish) {ending : Ending (Except Failure Outcome)}
      {calls : List Event} {g' : Group} (hbroken : ∀ r, ending ≠ .finished r)
      (hend : g'.phase = .finishing) : Finishes g ending calls g'

theorem Finishes.phase_of_cut {calls : List Event} {g' : Group}
    (h : Finishes g .cut calls g') : g'.phase = .finishing := by
  cases h with
  | brokenOff hmay hbroken hend => exact hend

/-- What may come of finishing the pending rotations under a time limit, which ends the run if a
request is not answered in time. -/
inductive FinishesInTime (g : Group) : Ending (Except Failure Outcome) → List Event → Group → Prop
    where
  | inTime {ending : Ending (Except Failure Outcome)} {calls : List Event} {g' : Group}
      (hdropped : ∀ q, .dropped q ∉ calls) (h : Finishes g ending calls g') :
      FinishesInTime g ending calls g'
  | expired {calls : List Event} {g' : Group} {q : Request} (hdropped : .dropped q ∈ calls)
      (h : Finishes g .cut calls g') :
      FinishesInTime g
        (.finished (.error (.timedOut
          ("rotation finish exceeded " ++ g.config.rotation.timeout.describe)))) calls
        { g' with phase := if g'.record.keyUpdate then .published else .idle }

/-- What may come of an operation, as far as rotations go. -/
def Operation.Conforms : {α : Type} → Operation α → Group → Ending (Except Failure α) →
    List Event → Group → Prop
  | _, .prepare => Prepares
  | _, .publish => Publishes
  | _, .rotate => Rotates
  | _, .finish => Finishes
  | _, .finishInTime => FinishesInTime
  | _, _ => fun g _ _ g' => g'.phase = g.phase ∧ g'.record.keyUpdate = g.record.keyUpdate

section Runs

theorem prepare_run (w : World S) (fuel : Nat) (g : Group) (s : S) :
    Prepares g (prepare.run.run w fuel g s).ending (prepare.run.run w fuel g s).calls
      (prepare.run.run w fuel g s).state := by
  apply Ensures.ending_of_recorded (R := Prepares g)
  simp only [prepare, ensures_bind, ensures_get, ensures_settle, Record.requireRank]
  by_cases hrank : g.record.rank ≤ g.config.ranks.rotation
  · rw [if_pos hrank]
    have hprepare : g.phase.mayPrepare → Ensures w.recorded fuel (do
        let latest ← Attempt.settle g.record.history.latest
        let artifact ← Attempt.request (.prepareRotation latest g.actor.publicKey)
        Attempt.notice (.rotationPrepared g.record.groupId artifact.preKeyId)
        setPhase (.prepared artifact)
        return artifact) (fun x g' s => Prepares g (.finished (.ok x)) s.1 g')
        (fun halt g' s => Prepares g halt.ending s.1 g') g ([], s) := by
      intro hphase
      simp only [ensures_bind, ensures_settle, History.latest]
      cases hlatest : g.record.history.keys.getLast? with
      | none => exact .keyless hrank hphase (List.getLast?_eq_none_iff.mp hlatest)
      | some latest =>
          have hmay : MayPrepare g latest := ⟨hrank, hphase, hlatest⟩
          apply ensures_recorded_request
          · exact fun artifact _ => .prepared hmay artifact
          · exact fun e _ => .failed hmay e
          · exact fun _ => .dropped hmay
    have hrefused : ∀ phase, g.phase = phase → phase.mayPrepare = false →
        Prepares g (.finished (.error (.invalidPhase "idle" phase.name))) [] g := by
      rintro _ rfl hphase
      exact .refused hrank hphase
    cases hphase : g.phase with
    | idle => exact hprepare (by rw [hphase]; rfl)
    | prepared artifact => exact hprepare (by rw [hphase]; rfl)
    | published => exact hrefused _ hphase rfl
    | finishing => exact hrefused _ hphase rfl
  · rw [if_neg hrank]
    exact .denied (UInt32.not_le.mp hrank)

theorem publish_run (w : World S) (fuel : Nat) (g : Group) (s : S) :
    Publishes g (publish.run.run w fuel g s).ending (publish.run.run w fuel g s).calls
      (publish.run.run w fuel g s).state := by
  apply Ensures.ending_of_recorded (R := Publishes g)
  simp only [publish, ensures_bind, ensures_get]
  have hrefused : ∀ phase, g.phase = phase → phase.artifact? = none →
      Publishes g (.finished (.error (.invalidPhase "prepared" phase.name))) [] g := by
    rintro _ rfl hnone
    exact .refused hnone
  cases hphase : g.phase with
  | prepared artifact =>
      simp only [ensures_bind]
      apply ensures_recorded_request
      · exact fun _ _ => .published hphase
      · exact fun e _ => .failed hphase e
      · exact fun _ => .dropped hphase
  | _ => exact hrefused _ hphase rfl

theorem rotate_run (w : World S) (fuel : Nat) (g : Group) (s : S) :
    Rotates g (rotate.run.run w fuel g s).ending (rotate.run.run w fuel g s).calls
      (rotate.run.run w fuel g s).state := by
  have hprepare := prepare_run w fuel g s
  have hrun : rotate.run = prepare.run.bind _ := Attempt.run_bind prepare fun _ => publish
  rw [hrun, Program.run_bind]
  generalize prepare.run.run w fuel g s = r at hprepare
  rcases r with ⟨(e | artifact) | _ | _, g₁, s₁, trace⟩
  · -- The rest of the attempt after a failure is a program that makes no calls.
    have hunprepared := Rotates.unprepared (.failed e) hprepare
    rw [← List.append_nil (Run.calls _)] at hunprepared
    exact Run.calls_after trace (_ : Run Group S (Except Failure Unit)) ▸ hunprepared
  · simp only [Run.calls_after]
    exact .prepared hprepare (publish_run w fuel g₁ s₁)
  · exact .unprepared .cut hprepare
  · exact .unprepared .exhausted hprepare

theorem finish_run (w : World S) (fuel : Nat) (g : Group) (s : S) :
    Finishes g (finish.run.run w fuel g s).ending (finish.run.run w fuel g s).calls
      (finish.run.run w fuel g s).state := by
  apply Ensures.ending_of_recorded (R := Finishes g)
  by_cases hphase : g.phase = .idle ∨ g.phase = .published
  · have hmay : g.phase.mayFinish := by rcases hphase with h | h <;> rw [h] <;> rfl
    -- Until it ends, the run only marks the record, so the phase shows that it is under way.
    have hunder : Preserves w.recorded fuel (fun g' _ => g'.phase = .finishing) finishPending :=
      preserves_finishPending (fun _ _ _ _ h => h) (fun _ _ _ _ h => h) (fun _ _ _ _ h => h)
        (fun _ _ _ _ h _ => h) (fun _ _ h => h)
    apply finish_of_finishPending hphase
    refine (hunder { g with phase := .finishing } ([], s) rfl).mono ?_ ?_
    · exact fun outcome g' _ _ => .ended hmay rfl
    · intro halt g' _ hfinishing
      cases halt with
      | failed e => exact .failed hmay rfl
      | cut => exact .brokenOff hmay nofun hfinishing
      | exhausted => exact .brokenOff hmay nofun hfinishing
  · have hrefused : ∀ phase, g.phase = phase → phase.mayFinish = false →
        Finishes g (.finished (.error (.invalidPhase "idle or published" phase.name))) [] g := by
      rintro _ rfl hmay
      exact .refused hmay
    simp only [finish, ensures_bind, ensures_get]
    cases h : g.phase with
    | idle => exact absurd (.inl h) hphase
    | published => exact absurd (.inr h) hphase
    | prepared artifact => exact hrefused _ h rfl
    | finishing => exact hrefused _ h rfl

theorem finishExpired_run (w : World S) (fuel : Nat) (h : g.phase = .finishing) (s : S) :
    (finishExpired.run.run w fuel g s).ending = .finished (.error (.timedOut
        ("rotation finish exceeded " ++ g.config.rotation.timeout.describe))) ∧
      (finishExpired.run.run w fuel g s).calls = [] ∧
      (finishExpired.run.run w fuel g s).state =
        { g with phase := if g.record.keyUpdate then .published else .idle } := by
  apply Ensures.ending_of_recorded
    (R := fun (ending : Ending (Except Failure Outcome)) calls (g' : Group) =>
      ending = .finished (.error (.timedOut
        ("rotation finish exceeded " ++ g.config.rotation.timeout.describe))) ∧ calls = [] ∧
        g' = { g with phase := if g.record.keyUpdate then .published else .idle })
  simp only [finishExpired, abandonFinish, h, setPhase, ensures_bind, ensures_get, if_true,
    ensures_set, ensures_notice, ensures_throw, and_true]
  rfl

theorem finishInTime_run (w : World S) (fuel : Nat) (g : Group) (s : S) :
    FinishesInTime g (Operation.finishInTime.run w fuel g s).ending
      (Operation.finishInTime.run w fuel g s).calls
      (Operation.finishInTime.run w fuel g s).state := by
  have hfinish := finish_run w fuel g (w.startTimer g.config.rotation.timeout s)
  have hcut := Program.run_cut_iff w fuel finish.run g (w.startTimer g.config.rotation.timeout s)
  have hfixed : Fixed g
      (finish.run.run w fuel g (w.startTimer g.config.rotation.timeout s)).state :=
    Operation.finish.run_fixed w fuel g _
  simp only [Operation.run, Program.runWithin]
  generalize finish.run.run w fuel g (w.startTimer g.config.rotation.timeout s) = r
    at hfinish hcut hfixed
  rcases r with ⟨r | _ | _, g', s', trace⟩
  · exact .inTime (fun q hq => by simpa using hcut.mpr ⟨q, hq⟩) hfinish
  · obtain ⟨q, hq⟩ := hcut.mp rfl
    have hfinishing : g'.phase = .finishing := hfinish.phase_of_cut
    obtain ⟨hending, hcalls, hstate⟩ := finishExpired_run w fuel hfinishing (w.stopTimer s')
    have hconfig : g'.config = g.config := hfixed.config
    rw [hconfig] at hending
    simp only [Run.calls_after, hcalls, List.append_nil]
    show FinishesInTime g (finishExpired.run.run w fuel g' (w.stopTimer s')).ending
      (trace.filter Event.isCall) (finishExpired.run.run w fuel g' (w.stopTimer s')).state
    rw [hending, hstate]
    exact .expired hq hfinish
  · exact .inTime (fun q hq => by simpa using hcut.mpr ⟨q, hq⟩) hfinish

theorem Operation.run_conforms (w : World S) (fuel : Nat) (op : Operation α) (g : Group) (s : S) :
    op.Conforms g (op.run w fuel g s).ending (op.run w fuel g s).calls
      (op.run w fuel g s).state := by
  cases op with
  | prepare => exact prepare_run w fuel g s
  | publish => exact publish_run w fuel g s
  | rotate => exact rotate_run w fuel g s
  | finish => exact finish_run w fuel g s
  | finishInTime => exact finishInTime_run w fuel g s
  | _ => exact Operation.run_stays _ rfl g s

end Runs

end Group

section Order

open Rotation

/-- The artifact that is prepared and not yet published after a request, given the one before. -/
def unpublishedAfter (unpublished : Option Artifact) : Event → Option Artifact
  | .called (.prepareRotation ..) (.ok artifact) => some artifact
  | .called (.publishRotation ..) (.ok _) => none
  | _ => unpublished

/-- The artifact that some requests have prepared last, if they have not published it. -/
def unpublished (calls : List Event) : Option Artifact :=
  calls.foldl unpublishedAfter none

/-- Whether requests publish nothing but what is prepared and not yet published. -/
def InOrder (unpublished : Option Artifact) : List Event → Prop
  | [] => True
  | e :: rest =>
    (∀ token groupId artifact, e.request? = some (.publishRotation token groupId artifact) →
      unpublished = some artifact) ∧ InOrder (unpublishedAfter unpublished e) rest

variable {unpublished : Option Artifact} {calls calls' : List Event}

theorem inOrder_append : InOrder unpublished (calls ++ calls') ↔
    InOrder unpublished calls ∧ InOrder (calls.foldl unpublishedAfter unpublished) calls' := by
  induction calls generalizing unpublished with
  | nil => simp [InOrder]
  | cons e rest ih => simp [InOrder, ih, and_assoc]

theorem inOrder_of_unrelated (h : ∀ e ∈ calls, ∃ q, e.request? = some q ∧
    q.isPreparation = false ∧ q.isPublication = false) :
    InOrder unpublished calls ∧ calls.foldl unpublishedAfter unpublished = unpublished := by
  induction calls with
  | nil => exact ⟨trivial, rfl⟩
  | cons e rest ih =>
      obtain ⟨q, hq, hpreparation, hpublication⟩ := h e List.mem_cons_self
      have hsame : unpublishedAfter unpublished e = unpublished := by
        unfold unpublishedAfter
        split
        · obtain rfl := Option.some.inj hq
          exact nomatch hpreparation
        · obtain rfl := Option.some.inj hq
          exact nomatch hpublication
        · rfl
      rw [InOrder, List.foldl_cons, hsame]
      refine ⟨⟨fun token groupId artifact he => ?_, ?_⟩, ?_⟩
      · obtain rfl := Option.some.inj (hq.symm.trans he)
        exact nomatch hpublication
      · exact (ih fun e he => h e (List.mem_cons_of_mem _ he)).1
      · exact (ih fun e he => h e (List.mem_cons_of_mem _ he)).2

end Order

namespace Group

open Rotation

variable {g g' g₀ : Group} {calls : List Event}

section Steps

theorem Prepares.inOrder {ending : Ending (Except Failure Artifact)}
    (h : Prepares g ending calls g') : InOrder g.phase.artifact? calls ∧
      calls.foldl unpublishedAfter g.phase.artifact? = g'.phase.artifact? := by
  cases h with
  | denied => exact ⟨trivial, rfl⟩
  | refused => exact ⟨trivial, rfl⟩
  | keyless => exact ⟨trivial, rfl⟩
  | prepared => exact ⟨⟨nofun, trivial⟩, rfl⟩
  | failed => exact ⟨⟨nofun, trivial⟩, rfl⟩
  | dropped => exact ⟨⟨nofun, trivial⟩, rfl⟩

theorem Publishes.inOrder {ending : Ending (Except Failure Unit)}
    (h : Publishes g ending calls g') : InOrder g.phase.artifact? calls ∧
      calls.foldl unpublishedAfter g.phase.artifact? = g'.phase.artifact? := by
  have hsame : ∀ {prepared : Artifact}, g.phase = .prepared prepared → ∀ token groupId artifact,
      some (Request.publishRotation g.actor.token g.record.groupId prepared) =
        some (.publishRotation token groupId artifact) → g.phase.artifact? = some artifact := by
    intro prepared hphase token groupId artifact he
    rw [hphase, ← (Request.publishRotation.inj (Option.some.inj he)).2.2]
    rfl
  cases h with
  | refused => exact ⟨trivial, rfl⟩
  | published hphase => exact ⟨⟨hsame hphase, trivial⟩, rfl⟩
  | failed hphase => exact ⟨⟨hsame hphase, trivial⟩, rfl⟩
  | dropped hphase => exact ⟨⟨hsame hphase, trivial⟩, rfl⟩

theorem Rotates.inOrder {ending : Ending (Except Failure Unit)} (h : Rotates g ending calls g') :
    InOrder g.phase.artifact? calls ∧
      calls.foldl unpublishedAfter g.phase.artifact? = g'.phase.artifact? := by
  cases h with
  | unprepared halt h => exact h.inOrder
  | prepared h h' =>
      obtain ⟨horder, hprepared⟩ := h.inOrder
      rw [inOrder_append, List.foldl_append, hprepared]
      exact ⟨⟨horder, h'.inOrder.1⟩, h'.inOrder.2⟩

theorem Finishes.artifact?_eq {ending : Ending (Except Failure Outcome)}
    (h : Finishes g ending calls g') : g'.phase.artifact? = g.phase.artifact? := by
  have hnone : ∀ {phase : Phase}, phase.mayFinish → phase.artifact? = none := by
    intro phase hmay
    cases phase with
    | prepared artifact => exact nomatch hmay
    | _ => rfl
  cases h with
  | refused => rfl
  | ended hmay hend =>
      rw [hend, hnone hmay]
      split
      · rfl
      · exact hnone hmay
  | failed hmay hend => rw [hend]
  | brokenOff hmay hbroken hend =>
      rw [hend, hnone hmay]
      rfl

theorem FinishesInTime.artifact?_eq {ending : Ending (Except Failure Outcome)}
    (h : FinishesInTime g ending calls g') : g'.phase.artifact? = g.phase.artifact? := by
  cases h with
  | inTime hdropped h => exact h.artifact?_eq
  | @expired calls g' q hdropped h =>
      rw [← h.artifact?_eq, h.phase_of_cut]
      dsimp only
      split <;> rfl

variable {α : Type} {op : Operation α} {ending : Ending (Except Failure α)}

theorem Operation.Conforms.inOrder (h : op.Conforms g ending calls g')
    (hasked : ∀ e ∈ calls, ∃ q, e.request? = some q ∧ op.asks q) :
    InOrder g.phase.artifact? calls ∧
      calls.foldl unpublishedAfter g.phase.artifact? = g'.phase.artifact? := by
  -- For all operations that neither prepare nor publish.
  have hunrelated : (∀ latest key, op.asks (.prepareRotation latest key) = false) →
      (∀ token groupId artifact, op.asks (.publishRotation token groupId artifact) = false) →
      g'.phase.artifact? = g.phase.artifact? → InOrder g.phase.artifact? calls ∧
        calls.foldl unpublishedAfter g.phase.artifact? = g'.phase.artifact? := by
    intro hprepare hpublish hphase
    rw [hphase]
    refine inOrder_of_unrelated fun e he => ?_
    obtain ⟨q, hq, hask⟩ := hasked e he
    refine ⟨q, hq, ?_⟩
    cases q with
    | prepareRotation latest key => exact absurd hask (by simp [hprepare])
    | publishRotation token groupId artifact => exact absurd hask (by simp [hpublish])
    | _ => exact ⟨rfl, rfl⟩
  cases op with
  | prepare => exact Prepares.inOrder h
  | publish => exact Publishes.inOrder h
  | rotate => exact Rotates.inOrder h
  | finish => exact hunrelated (fun _ _ => rfl) (fun _ _ _ => rfl) (Finishes.artifact?_eq h)
  | finishInTime =>
      exact hunrelated (fun _ _ => rfl) (fun _ _ _ => rfl) (FinishesInTime.artifact?_eq h)
  | _ => exact hunrelated (fun _ _ => rfl) (fun _ _ _ => rfl) (congrArg Phase.artifact? h.1)

theorem Prepares.not_finishing {ending : Ending (Except Failure Artifact)}
    (h : Prepares g ending calls g') (hphase : g.phase ≠ .finishing) : g'.phase ≠ .finishing := by
  cases h with
  | prepared => exact nofun
  | _ => exact hphase

theorem Publishes.not_finishing {ending : Ending (Except Failure Unit)}
    (h : Publishes g ending calls g') (hphase : g.phase ≠ .finishing) : g'.phase ≠ .finishing := by
  cases h with
  | published => exact nofun
  | _ => exact hphase

theorem Rotates.not_finishing {ending : Ending (Except Failure Unit)}
    (h : Rotates g ending calls g') (hphase : g.phase ≠ .finishing) : g'.phase ≠ .finishing := by
  cases h with
  | unprepared halt h => exact h.not_finishing hphase
  | prepared h h' => exact h'.not_finishing (h.not_finishing hphase)

theorem Finishes.not_finishing {r : Except Failure Outcome}
    (h : Finishes g (.finished r) calls g') (hphase : g.phase ≠ .finishing) :
    g'.phase ≠ .finishing := by
  cases h with
  | refused => exact hphase
  | ended hmay hend =>
      rw [hend]
      split
      · exact nofun
      · exact hphase
  | failed hmay hend => exact hend ▸ hphase
  | brokenOff hmay hbroken => exact absurd rfl (hbroken r)

theorem FinishesInTime.not_finishing {r : Except Failure Outcome}
    (h : FinishesInTime g (.finished r) calls g') (hphase : g.phase ≠ .finishing) :
    g'.phase ≠ .finishing := by
  cases h with
  | inTime hdropped h => exact h.not_finishing hphase
  | expired hdropped h =>
      dsimp only
      split <;> exact nofun

theorem Operation.Conforms.not_finishing {r : Except Failure α}
    (h : op.Conforms g (.finished r) calls g') (hphase : g.phase ≠ .finishing) :
    g'.phase ≠ .finishing := by
  cases op with
  | prepare => exact Prepares.not_finishing h hphase
  | publish => exact Publishes.not_finishing h hphase
  | rotate => exact Rotates.not_finishing h hphase
  | finish => exact Finishes.not_finishing h hphase
  | finishInTime => exact FinishesInTime.not_finishing h hphase
  | _ => exact h.1 ▸ hphase

end Steps

variable {es : List Episode}

theorem Life.conforms (h : Life g₀ es g) :
    ∀ e ∈ es, e.op.Conforms e.before e.ending e.calls e.after :=
  h.forall_episodes fun _ w fuel op s => op.run_conforms w fuel _ s

theorem Life.not_finishing (hphase : g₀.phase ≠ .finishing) (h : Life g₀ es g)
    (hreturned : ∀ e ∈ es, ∃ r, e.ending = .finished r) : g.phase ≠ .finishing := by
  induction h with
  | start => exact hphase
  | @step S α es g h w fuel op s ih =>
      obtain ⟨r, hr⟩ := hreturned _ (List.mem_append_right _ (List.mem_singleton_self _))
      have hbefore := ih fun e he => hreturned e (List.mem_append_left _ he)
      have hconforms := op.run_conforms w fuel g s
      rw [show (op.run w fuel g s).ending = .finished r from hr] at hconforms
      exact hconforms.not_finishing hbefore

theorem Life.inOrder (hphase : g₀.phase = .idle) (h : Life g₀ es g) :
    InOrder none (es.flatMap Episode.calls) ∧
      unpublished (es.flatMap Episode.calls) = g.phase.artifact? := by
  induction h with
  | start =>
      rw [hphase]
      exact ⟨trivial, rfl⟩
  | @step S α es g h w fuel op s ih =>
      obtain ⟨horder, hunpublished⟩ := ih
      have hstep := (op.run_conforms w fuel g s).inOrder (op.calls_asked g s)
      rw [← hunpublished] at hstep
      rw [unpublished, List.flatMap_append, List.flatMap_singleton, inOrder_append,
        List.foldl_append]
      exact ⟨⟨horder, hstep.1⟩, hstep.2⟩

/-- Over the life of a group each operation does what it may do where the group stands in a
rotation. As long as operations return, the group is never in the middle of a finish run between
them. The group stands at a prepared rotation if the last one that was prepared is not published,
and no other rotation is ever sent to be published. -/
theorem rotates_in_order (hfresh : Fresh g₀) (h : Life g₀ es g) :
    (∀ e ∈ es, e.op.Conforms e.before e.ending e.calls e.after) ∧
      ((∀ e ∈ es, ∃ r, e.ending = .finished r) → g.phase ≠ .finishing) ∧
      unpublished (es.flatMap Episode.calls) = g.phase.artifact? ∧
      ∀ front e back token groupId artifact, es.flatMap Episode.calls = front ++ e :: back →
        e.request? = some (.publishRotation token groupId artifact) →
        unpublished front = some artifact := by
  have hidle : g₀.phase ≠ .finishing := by
    rw [hfresh.phase_eq]
    exact nofun
  obtain ⟨horder, hunpublished⟩ := h.inOrder hfresh.phase_eq
  refine ⟨h.conforms, h.not_finishing hidle, hunpublished, ?_⟩
  intro front e back token groupId artifact hcalls he
  rw [hcalls, inOrder_append] at horder
  exact horder.2.1 token groupId artifact he

theorem rotates_in_order_sample : ∃ e e' g artifact back,
    Fresh sampleMember ∧ Life sampleMember [e, e'] g ∧
    [e, e'].flatMap Episode.calls =
      [.called (.prepareRotation (.sample "first" 1) "public") (.ok artifact)] ++
        .called (.publishRotation "token" "group" artifact) (.ok ()) :: back ∧
    e.after.phase = .published ∧ e'.after.phase = .idle ∧
    (∀ x ∈ [e, e'], x.op.Conforms x.before x.ending x.calls x.after) ∧ g.phase ≠ .finishing ∧
    unpublished ([e, e'].flatMap Episode.calls) = none ∧
    unpublished [.called (.prepareRotation (.sample "first" 1) "public") (.ok artifact)] =
      some artifact := by
  let e := Operation.rotate.episode Memory.world 4 sampleMember {}
  let e' := Operation.finish.episode Memory.world 4 (sampleMember.turned .published true) {}
  have hlife : Life sampleMember [e, e'] _ :=
    (Life.start.step Memory.world 4 .rotate {}).step Memory.world 4 .finish {}
  have hreturned : ∀ x ∈ [e, e'], ∃ r, x.ending = .finished r :=
    List.forall_mem_cons.mpr ⟨⟨_, rfl⟩, List.forall_mem_singleton.mpr ⟨_, rfl⟩⟩
  have hfresh : Fresh sampleMember := .made _ _ _
  obtain ⟨hconforms, hfinishing, hunpublished, horder⟩ := rotates_in_order hfresh hlife
  exact ⟨e, e', _, _, e'.calls, hfresh, hlife, rfl, rfl, rfl, hconforms, hfinishing hreturned,
    hunpublished, horder _ _ _ _ _ _ rfl rfl⟩

end Group

end Keyring
