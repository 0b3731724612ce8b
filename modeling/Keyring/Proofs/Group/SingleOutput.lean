import Keyring.Proofs.Group.Finish

namespace Keyring.Group

open Keyring.Memory Keyring.Rotation

variable {S : Type} {w : World S} {fuel : Nat} {g : Group} {x x₁ x₂ x₃ x₄ : S} {o : Output}
  {k key last last' : Key} {batch batch' : List Key} {events events' : List Event} {e : Failure}
  {X : Halt → Group → S → Prop}

/-- The fetch loop of a group, from a key on. -/
def sweepFrom (g : Group) (last : Key) : Sweep :=
  { token := g.actor.token, groupId := g.record.groupId,
    threshold := g.config.keys.fetchThreshold, cursor := last.cursor }

theorem fetchNew_of_sweep (hsound : g.record.history.Sound)
    (hlast : g.record.history.keys.getLast? = some last) {r : Except Failure (List Key)}
    (hsweep : (g.sweepFrom last).run w fuel x = (.finished r, x₁, events))
    {Q : Nat → Group → S → Prop}
    (hQ : ∀ batch, r = .ok batch → Chronicle (g.record.history.keys ++ batch) ∧
      ∀ h : History, h.Sound → h.keys = g.record.history.keys ++ batch →
        Q batch.length (g.withHistory h) x₁)
    (hX : ∀ e, r = .error e → X (.failed e) g x₁) :
    Attempt.Ensures w fuel (fetchNew g.actor.token g.config.keys.fetchThreshold) Q X g x := by
  apply fetchNew_of_gather hsound hlast _ _
  rw [sweepFrom] at hsweep
  rw [Attempt.ensures_gather, hsweep]
  cases r with
  | error e => exact hX e rfl
  | ok batch =>
      obtain ⟨hc, h⟩ := hQ batch rfl
      exact ⟨rfl, hc, h⟩

theorem finishRound_of_deferral (hsound : g.record.history.Sound)
    (hunknown : g.record.history.keys.find? (·.id == o.preKeyId) = none)
    (round left : Nat) {Q : Nat × List Output → Group → S → Prop}
    (hfetch : Attempt.Ensures w fuel (fetchNew g.actor.token g.config.keys.fetchThreshold)
      (fun _ => Q (0, [o])) X g x) :
    Attempt.Ensures w fuel (finishRound round left [o]) Q X g x := by
  simp only [finishRound, resolveKnown, hsound.get?_eq_find?, hunknown, Attempt.ensures_bind,
    Attempt.ensures_get, Attempt.ensures_notice, Attempt.ensures_metric, Attempt.ensures_pure]
  exact hfetch.mono (fun _ _ _ h => h) (fun _ _ _ h => h)

theorem resolve_of_answers (hderive : w.answer (.deriveKey k o g.actor) x = (some (.ok key), x₁))
    (hcommit : w.answer (.commitKey g.actor.token g.record.groupId o key) x₁ =
      (some (.ok ()), x₂)) (round : Nat) {Q : Unit → Group → S → Prop} (hQ : Q () g x₂) :
    Attempt.Ensures w fuel (resolve round o k) Q X g x := by
  simp only [resolve, Attempt.ensures_bind, Attempt.ensures_get, Attempt.ensures_tryCatch]
  rw [Attempt.ensures_request, hderive]
  simp only [Attempt.ensures_bind]
  rw [Attempt.ensures_request, hcommit]
  exact hQ

theorem finishRound_of_resolution (hsound : g.record.history.Sound)
    (hknown : g.record.history.keys.find? (·.id == o.preKeyId) = some k)
    (hderive : w.answer (.deriveKey k o g.actor) x = (some (.ok key), x₁))
    (hcommit : w.answer (.commitKey g.actor.token g.record.groupId o key) x₁ =
      (some (.ok ()), x₂))
    (round left : Nat) {Q : Nat × List Output → Group → S → Prop}
    (hfetch : Attempt.Ensures w fuel (fetchNew g.actor.token g.config.keys.fetchThreshold)
      (fun _ => Q (1, [])) X g x₂) :
    Attempt.Ensures w fuel (finishRound round left [o]) Q X g x := by
  simp only [finishRound, resolveKnown, hsound.get?_eq_find?, hknown, Attempt.ensures_bind,
    Attempt.ensures_get]
  refine resolve_of_answers hderive hcommit round ?_
  simp only [Attempt.ensures_bind, Attempt.ensures_get, Attempt.ensures_pure]
  exact hfetch.mono (fun _ _ _ h => h) (fun _ _ _ h => h)

theorem catchUp_of_failure {round resolved left : Nat} {outputs : List Output}
    {Q : Nat × Nat × List Output → Group → S → Prop}
    (h : Attempt.Ensures w fuel (finishRound round left outputs) (fun _ _ _ => False) X g x) :
    Attempt.Ensures w fuel (catchUp round resolved left outputs) Q X g x := by
  cases left with
  | zero =>
      simp only [catchUp, Attempt.ensures_bind]
      exact h.mono (fun _ _ _ h => h.elim) fun _ _ _ h => h
  | succ left =>
      simp only [catchUp, Attempt.ensures_bind]
      exact h.mono (fun _ _ _ h => h.elim) fun _ _ _ h => h

theorem catchUp_of_completion {round resolved left : Nat} {outputs : List Output}
    {Q : Nat × Nat × List Output → Group → S → Prop}
    (h : Attempt.Ensures w fuel (finishRound round left outputs)
      (fun r g' x' => r.2 = [] ∧ Q (resolved + r.1, round, []) g' x') X g x) :
    Attempt.Ensures w fuel (catchUp round resolved left outputs) Q X g x := by
  cases left with
  | zero =>
      simp only [catchUp, Attempt.ensures_bind]
      refine h.mono ?_ fun _ _ _ h => h
      rintro ⟨more, _⟩ g' x' ⟨rfl, hQ⟩
      exact hQ
  | succ left =>
      simp only [catchUp, Attempt.ensures_bind]
      refine h.mono ?_ fun _ _ _ h => h
      rintro ⟨more, _⟩ g' x' ⟨rfl, hQ⟩
      exact hQ

theorem finish_of_failure (hphase : g.phase = .idle ∨ g.phase = .published)
    (hpending : w.answer (.pendingOutputs g.actor.token g.record.groupId) x =
      (some (.ok [o]), x)) {P : Group → S → Prop}
    (h : Attempt.Ensures w fuel (finishRound 1 g.furtherRounds [o]) (fun _ _ _ => False)
      (fun halt g' x' => (∃ e, halt = .failed e) ∧ P { g' with phase := g.phase } x')
      { g with phase := .finishing } x) :
    Attempt.Ensures w fuel finish (fun _ _ _ => False)
      (fun halt g' x' => (∃ e, halt = .failed e) ∧ P g' x') g x := by
  have hrun : Attempt.Ensures w fuel finishPending (fun _ _ _ => False)
      (fun halt g' x' => (∃ e, halt = .failed e) ∧ P { g' with phase := g.phase } x')
      { g with phase := .finishing } x := by
    simp only [finishPending, Attempt.ensures_bind, Attempt.ensures_get]
    rw [Attempt.ensures_request, hpending]
    simp only [List.isEmpty_cons, Bool.false_eq_true, if_false, Attempt.ensures_bind,
      Attempt.ensures_notice]
    exact catchUp_of_failure h
  refine finish_of_finishPending hphase (hrun.mono (fun _ _ _ h => h.elim) ?_)
  rintro _ g' x' ⟨⟨e, rfl⟩, hP⟩
  exact ⟨⟨e, rfl⟩, hP⟩

theorem finish_of_completion (hphase : g.phase = .idle ∨ g.phase = .published)
    (hpending : w.answer (.pendingOutputs g.actor.token g.record.groupId) x =
      (some (.ok [o]), x))
    (hwrite : ∀ key text, ∃ x', w.answer (.writeStore key text) x₁ = (some (.ok ()), x'))
    {n m : Nat} {P : List Key → Prop}
    (h : Attempt.Ensures w fuel (catchUp 1 0 g.furtherRounds [o])
      (fun r g' x' => r = (n, m, []) ∧ x' = x₁ ∧ P g'.record.history.keys)
      (fun _ _ _ => False) { g with phase := .finishing } x) :
    Attempt.Ensures w fuel finish
      (fun outcome g' _ => outcome = .completed n m ∧ P g'.record.history.keys)
      (fun _ _ _ => False) g x := by
  have hrun : Attempt.Ensures w fuel finishPending
      (fun outcome g' _ => outcome = .completed n m ∧ P g'.record.history.keys)
      (fun _ _ _ => False) { g with phase := .finishing } x := by
    simp only [finishPending, Attempt.ensures_bind, Attempt.ensures_get]
    rw [Attempt.ensures_request, hpending]
    simp only [List.isEmpty_cons, Bool.false_eq_true, if_false, Attempt.ensures_bind,
      Attempt.ensures_notice]
    refine h.mono ?_ (fun _ _ _ h => h)
    rintro _ g' _ ⟨rfl, rfl, hP⟩
    simp only [Attempt.ensures_bind, Attempt.ensures_metric, List.isEmpty_nil, if_true,
      modifyRecord, Attempt.ensures_get, Attempt.ensures_set, Attempt.ensures_notice, persist,
      Record.store]
    obtain ⟨x', hx'⟩ := hwrite _ _
    rw [Attempt.ensures_request, hx']
    exact ⟨rfl, hP⟩
  refine finish_of_finishPending hphase (hrun.mono (fun _ _ _ h => h) fun _ _ _ h => ?_)
  exact h.elim

section Runs

variable (hphase : g.phase = .idle ∨ g.phase = .published) (hsound : g.record.history.Sound)
  (hpending : w.answer (.pendingOutputs g.actor.token g.record.groupId) x = (some (.ok [o]), x))
  (hlast : g.record.history.keys.getLast? = some last)

include hphase hsound hpending hlast

theorem finish_of_deferred_failure
    (hunknown : g.record.history.keys.find? (·.id == o.preKeyId) = none)
    (hsweep : (g.sweepFrom last).run w fuel x = (.finished (.error e), x₁, events)) :
    Attempt.Ensures w fuel finish (fun _ _ _ => False)
      (fun halt g' x' => (∃ e, halt = .failed e) ∧ g' = g ∧ x' = x₁) g x := by
  refine finish_of_failure (P := fun g' x' => g' = g ∧ x' = x₁) hphase hpending ?_
  apply finishRound_of_deferral (g := { g with phase := .finishing }) hsound hunknown 1 _
  refine fetchNew_of_sweep (g := { g with phase := .finishing }) hsound hlast hsweep ?_ ?_
  · exact fun _ hbatch => by simp at hbatch
  · exact fun e he => ⟨⟨e, rfl⟩, rfl, rfl⟩

theorem finish_of_resolved_failure
    (hknown : g.record.history.keys.find? (·.id == o.preKeyId) = some k)
    (hderive : w.answer (.deriveKey k o g.actor) x = (some (.ok key), x₁))
    (hcommit : w.answer (.commitKey g.actor.token g.record.groupId o key) x₁ =
      (some (.ok ()), x₂))
    (hsweep : (g.sweepFrom last).run w fuel x₂ = (.finished (.error e), x₃, events)) :
    Attempt.Ensures w fuel finish (fun _ _ _ => False)
      (fun halt g' x' => (∃ e, halt = .failed e) ∧ g' = g ∧ x' = x₃) g x := by
  refine finish_of_failure (P := fun g' x' => g' = g ∧ x' = x₃) hphase hpending ?_
  refine finishRound_of_resolution (g := { g with phase := .finishing }) hsound hknown hderive
    hcommit 1 _ ?_
  refine fetchNew_of_sweep (g := { g with phase := .finishing }) hsound hlast hsweep ?_ ?_
  · exact fun _ hbatch => by simp at hbatch
  · exact fun e he => ⟨⟨e, rfl⟩, rfl, rfl⟩

theorem finish_of_resolution
    (hknown : g.record.history.keys.find? (·.id == o.preKeyId) = some k)
    (hderive : w.answer (.deriveKey k o g.actor) x = (some (.ok key), x₁))
    (hcommit : w.answer (.commitKey g.actor.token g.record.groupId o key) x₁ =
      (some (.ok ()), x₂))
    (hsweep : (g.sweepFrom last).run w fuel x₂ = (.finished (.ok batch), x₃, events))
    (hwrite : ∀ key text, ∃ x', w.answer (.writeStore key text) x₃ = (some (.ok ()), x'))
    (hc : Chronicle (g.record.history.keys ++ batch)) :
    Attempt.Ensures w fuel finish
      (fun outcome g' _ => outcome = .completed 1 1 ∧
        g'.record.history.keys = g.record.history.keys ++ batch) (fun _ _ _ => False) g x := by
  refine finish_of_completion (P := fun keys => keys = g.record.history.keys ++ batch) hphase
    hpending hwrite ?_
  apply catchUp_of_completion
  refine finishRound_of_resolution (g := { g with phase := .finishing }) hsound hknown hderive
    hcommit 1 _ ?_
  refine fetchNew_of_sweep (g := { g with phase := .finishing }) hsound hlast hsweep ?_
    (fun e he => by simp at he)
  intro _ hbatch
  obtain rfl := Except.ok.inj hbatch
  exact ⟨hc, fun _ _ hkeys => ⟨rfl, rfl, rfl, hkeys⟩⟩

theorem finish_after_deferral (hrounds : 1 ≤ g.furtherRounds)
    (hunknown : g.record.history.keys.find? (·.id == o.preKeyId) = none)
    (hsweep : (g.sweepFrom last).run w fuel x = (.finished (.ok batch), x₁, events))
    (hknown : (g.record.history.keys ++ batch).find? (·.id == o.preKeyId) = some k)
    (hderive : w.answer (.deriveKey k o g.actor) x₁ = (some (.ok key), x₂))
    (hcommit : w.answer (.commitKey g.actor.token g.record.groupId o key) x₂ =
      (some (.ok ()), x₃))
    (hlast' : (g.record.history.keys ++ batch).getLast? = some last')
    (hsweep' : (g.sweepFrom last').run w fuel x₃ = (.finished (.ok batch'), x₄, events'))
    (hwrite : ∀ key text, ∃ x', w.answer (.writeStore key text) x₄ = (some (.ok ()), x'))
    (hc : Chronicle (g.record.history.keys ++ batch ++ batch')) :
    Attempt.Ensures w fuel finish
      (fun outcome g' _ => outcome = .completed 1 2 ∧
        g'.record.history.keys = g.record.history.keys ++ batch ++ batch')
      (fun _ _ _ => False) g x := by
  refine finish_of_completion (P := fun keys => keys = g.record.history.keys ++ batch ++ batch')
    hphase hpending hwrite ?_
  obtain ⟨left, hleft⟩ := Nat.exists_eq_add_of_le' hrounds
  rw [hleft]
  simp only [catchUp, Attempt.ensures_bind]
  refine finishRound_of_deferral (g := { g with phase := .finishing }) hsound hunknown 1
    (left + 1) ?_
  refine fetchNew_of_sweep (g := { g with phase := .finishing }) hsound hlast hsweep ?_
    (fun e he => by simp at he)
  intro _ hbatch
  obtain rfl := Except.ok.inj hbatch
  refine ⟨hc.of_isPrefix (List.prefix_append _ _), fun h hsound₁ hkeys => ?_⟩
  simp only at hkeys
  rw [← hkeys] at hknown hlast' hc ⊢
  rw [if_neg (by simp)]
  apply catchUp_of_completion
  refine finishRound_of_resolution (g := { g.withHistory h with phase := .finishing }) hsound₁
    hknown hderive hcommit 2 left ?_
  refine fetchNew_of_sweep (g := { g.withHistory h with phase := .finishing }) hsound₁ hlast'
    hsweep' ?_ (fun e he => by simp at he)
  intro _ hbatch'
  obtain rfl := Except.ok.inj hbatch'
  exact ⟨hc, fun _ _ hkeys' => ⟨rfl, rfl, rfl, hkeys'⟩⟩

end Runs

end Keyring.Group
