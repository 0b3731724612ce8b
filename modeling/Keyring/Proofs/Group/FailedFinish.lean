import Keyring.Proofs.Group.Retry
import Keyring.Proofs.Group.Storing

namespace Keyring.Group

open Memory Rotation

section Failure

variable {S : Type} {w : World S} {fuel : Nat} {stored : S → Option String} {g g' : Group} {s s' : S}
  {e : Failure} {trace : List Event}

/-- What a failed finish run leaves behind, besides keys that it has fetched. -/
structure Recovered (w : World S) (stored : S → Option String) (g : Group) (s : S) (e : Failure)
    (g' : Group) (s' : S) : Prop where
  phase : g'.phase = g.phase
  stored_eq : stored s' = stored s
  keyUpdate : g'.record.keyUpdate = g.record.keyUpdate ∨ g'.record.keyUpdate = false ∧
    ∃ s₁, w.answer (.writeStore (storeKey g.config.store.space g.record.groupId) g'.record.save)
      s₁ = (some (.error e), s')

theorem finish_recovers (hst : Storing w (storeKey g.config.store.space g.record.groupId) stored) :
    Attempt.Ensures w fuel finish (fun _ _ _ => True) (fun
      | .failed e, g', s' => Recovered w stored g s e g' s'
      | _, _, _ => True) g s := by
  by_cases hphase : g.phase = .idle ∨ g.phase = .published
  · apply finish_of_finishPending hphase
    -- Until the record is written, the run has only changed the history.
    let P : Group → Prop := fun g' => Akin g g' ∧ g'.record.keyUpdate = g.record.keyUpdate
    have hflag : ∀ g', P g' → ∀ g'', g'' = g' ∨ g'' = g'.upToDate →
        g''.record.keyUpdate = g.record.keyUpdate ∨ g''.record.keyUpdate = false := by
      rintro g' ⟨-, hkeep⟩ g'' (rfl | rfl)
      · exact .inl hkeep
      · exact .inr rfl
    have hstart : P { g with phase := .finishing } := ⟨⟨rfl, rfl⟩, rfl⟩
    refine finishPending_storing (P := P) hst ?_ (fun _ h => h.1) hstart ?_ ?_ ?_ ?_ ?_
    · exact fun g' _ _ ⟨hakin, hkeep⟩ _ => ⟨⟨hakin.groupId, hakin.config⟩, hkeep⟩
    · exact fun _ _ => trivial
    · exact fun _ _ _ _ _ _ _ => trivial
    · rintro halt g' s' ⟨-, hkeep⟩ hstored
      cases halt with
      | failed e => exact ⟨rfl, hstored, .inl hkeep⟩
      | cut => trivial
      | exhausted => trivial
    · intro g' hg' g'' hg'' e s₁ s' hanswer hstored
      refine ⟨rfl, hstored, (hflag g' hg' g'' hg'').imp_right fun hclear => ?_⟩
      exact ⟨hclear, s₁, hanswer⟩
    · exact fun _ _ _ _ _ _ => trivial
  · simp only [finish, Attempt.ensures_bind, Attempt.ensures_get]
    split
    · exact absurd (.inl ‹_›) hphase
    · exact absurd (.inr ‹_›) hphase
    · exact ⟨rfl, rfl, .inl rfl⟩

/-- A finish run that fails leaves the phase and the stored record. It leaves the update flag, too,
unless it fails because the store refuses the record at the end. -/
theorem finish_failure_recovers
    (hst : Storing w (storeKey g.config.store.space g.record.groupId) stored)
    (hrun : Operation.finish.run w fuel g s = ⟨.finished (.error e), g', s', trace⟩) :
    Recovered w stored g s e g' s' :=
  (finish_recovers hst).of_run hrun

end Failure

section Unsaved

variable {S : Type} {w : World S} {fuel : Nat} {g : Group} {x x₁ x₂ x₃ : S} {o : Output}
  {k key last : Key} {batch : List Key} {events : List Event}

theorem finish_of_unsaved (hphase : g.phase = .idle ∨ g.phase = .published)
    (hsound : g.record.history.Sound)
    (hpending : w.answer (.pendingOutputs g.actor.token g.record.groupId) x = (some (.ok [o]), x))
    (hlast : g.record.history.keys.getLast? = some last)
    (hknown : g.record.history.keys.find? (·.id == o.preKeyId) = some k)
    (hderive : w.answer (.deriveKey k o g.actor) x = (some (.ok key), x₁))
    (hcommit : w.answer (.commitKey g.actor.token g.record.groupId o key) x₁ =
      (some (.ok ()), x₂))
    (hsweep : (g.sweepFrom last).run w fuel x₂ = (.finished (.ok batch), x₃, events))
    (hwrite : ∀ key text, ∃ e x₄, w.answer (.writeStore key text) x₃ = (some (.error e), x₄))
    (hc : Chronicle (g.record.history.keys ++ batch)) :
    Attempt.Ensures w fuel finish (fun _ _ _ => False) (fun halt g' _ =>
      (∃ e, halt = .failed e) ∧ g'.record.keyUpdate = false) g x := by
  have hloop : Attempt.Ensures w fuel (catchUp 1 0 g.furtherRounds [o])
      (fun r _ x' => r = (1, 1, []) ∧ x' = x₃)
      (fun _ _ _ => False) { g with phase := .finishing } x := by
    apply catchUp_of_completion
    refine finishRound_of_resolution (g := { g with phase := .finishing }) hsound hknown hderive
      hcommit 1 _ ?_
    refine fetchNew_of_sweep (g := { g with phase := .finishing }) hsound hlast hsweep ?_
      (fun e he => by simp at he)
    intro _ hbatch
    obtain rfl := Except.ok.inj hbatch
    exact ⟨hc, fun _ _ _ => ⟨rfl, rfl, rfl⟩⟩
  have hrun : Attempt.Ensures w fuel finishPending (fun _ _ _ => False) (fun halt g' _ =>
      (∃ e, halt = .failed e) ∧ g'.record.keyUpdate = false) { g with phase := .finishing } x := by
    simp only [finishPending, Attempt.ensures_bind, Attempt.ensures_get]
    rw [Attempt.ensures_request, hpending]
    simp only [List.isEmpty_cons, Bool.false_eq_true, if_false, Attempt.ensures_bind,
      Attempt.ensures_notice]
    refine hloop.mono ?_ fun _ _ _ h => h.elim
    rintro _ g' _ ⟨rfl, rfl⟩
    simp only [Attempt.ensures_bind, Attempt.ensures_metric, List.isEmpty_nil, if_true,
      modifyRecord, Attempt.ensures_get, Attempt.ensures_set, Attempt.ensures_notice, persist,
      Record.store]
    obtain ⟨e, x₄, hx₄⟩ := hwrite _ _
    rw [Attempt.ensures_request, hx₄]
    exact ⟨⟨e, rfl⟩, rfl⟩
  refine finish_of_finishPending hphase (hrun.mono (fun _ _ _ h => h.elim) ?_)
  rintro _ g' x' ⟨⟨e, rfl⟩, hclear⟩
  exact ⟨⟨e, rfl⟩, hclear⟩

/-- The sample member, who has published a rotation and waits for it to be finished. -/
def publishedMember : Group :=
  { sampleMember with
    record := { sampleMember.record with keyUpdate := true }
    phase := .published }

theorem run_publishedMember : ∃ e g' s' trace,
    Operation.finish.run (withFaults world) 4 publishedMember
        ([("store_set", ⟨0, 1⟩)], readyState) = ⟨.finished (.error e), g', s', trace⟩ ∧
      g'.record.keyUpdate = false := by
  have hsound : publishedMember.record.history.Sound := joined_sample.sound
  have hkeys : ∀ k ∈ [Key.sample "first" 1, .sample "next" 2],
      k.id.length ≤ readyOutput.preKeyId.length := by decide
  have hlast : [Key.sample "first" 1, .sample "next" 2].getLast? = some (.sample "next" 2) := rfl
  have hid : (Key.sample "first" 1).id = readyOutput.preKeyId := rfl
  have hcommit : (withFaults world).answer (.commitKey publishedMember.actor.token
      publishedMember.record.groupId readyOutput
      (Engine.rotatedKey (.sample "first" 1) readyOutput publishedMember.actor))
      ([("store_set", ⟨0, 1⟩)], { readyState with engine := { derivations := 1 } }) =
      (some (.ok ()), ([("store_set", ⟨0, 1⟩)], committedState)) := by
    have h := commit_derived _ hid hkeys hlast (by decide)
      (s := { readyState with engine := { derivations := 1 } }) rfl publishedMember.actor.token
      publishedMember.record.groupId
    exact congrArg (fun r => (r.1, ([("store_set", (⟨0, 1⟩ : Fault))], r.2))) h
  have hlog : Chronicle [.sample "first" 1, .sample "next" 2, readyKey] :=
    chronicle_derived _ hid hkeys kept_ready.chronicle hlast
  have hfailed : Attempt.Ensures (withFaults world) 4 finish (fun _ _ _ => False)
      (fun halt g' _ => (∃ e, halt = .failed e) ∧ g'.record.keyUpdate = false) publishedMember
      ([("store_set", ⟨0, 1⟩)], readyState) :=
    finish_of_unsaved (.inr rfl) hsound rfl rfl rfl rfl hcommit rfl (fun _ _ => ⟨_, _, rfl⟩) hlog
  obtain ⟨e, g', s', trace, hrun, hclear⟩ := hfailed.exists_failure
  exact ⟨e, g', s', trace, hrun, hclear⟩

end Unsaved

/-- A failed finish run can clear the update flag. -/
theorem finish_failure_clears : publishedMember.record.keyUpdate = true ∧ ∃ e g' s' trace,
    Operation.finish.run (withFaults world) 4 publishedMember
        ([("store_set", ⟨0, 1⟩)], readyState) = ⟨.finished (.error e), g', s', trace⟩ ∧
      g'.record.keyUpdate = false :=
  ⟨rfl, run_publishedMember⟩

theorem finish_failure_recovers_published : ∃ e g' s' trace,
    Operation.finish.run (withFaults world) 4 publishedMember
        ([("store_set", ⟨0, 1⟩)], readyState) = ⟨.finished (.error e), g', s', trace⟩ ∧
      Recovered (withFaults world) (fun s => s.2.store.get? (storeKey "group_data" "group"))
        publishedMember ([("store_set", ⟨0, 1⟩)], readyState) e g' s' := by
  obtain ⟨e, g', s', trace, hrun, -⟩ := run_publishedMember
  exact ⟨e, g', s', trace, hrun,
    finish_failure_recovers (storing_withFaults (storing_world _)) hrun⟩

end Keyring.Group
