import Keyring.Proofs.Group.Storing
import Keyring.Proofs.Group.Twin

namespace Keyring.Group

open Attempt Memory Rotation

variable {fuel : Nat} {g g' : Group} {s s' : State} {o : Outcome}

/-- The group as it is stored when these outputs still wait. -/
def closed (g : Group) (waiting : List Output) : Group :=
  if waiting.isEmpty then g.upToDate else g

theorem closed_nil (g : Group) : g.closed [] = g.upToDate :=
  rfl

theorem closed_of_ne_nil (g : Group) {waiting : List Output} (h : waiting ≠ []) :
    g.closed waiting = g := by
  rw [closed, if_neg (by simpa using h)]

theorem phase_closed (g : Group) (waiting : List Output) : (g.closed waiting).phase = g.phase := by
  unfold closed
  split <;> rfl

theorem closed_withRounds (g : Group) (n : UInt32) (waiting : List Output) :
    (g.withRounds n).closed waiting = (g.closed waiting).withRounds n := by
  unfold closed
  split <;> rfl

theorem Akin.closed (h : Akin g g') (waiting : List Output) : Akin g (g'.closed waiting) := by
  unfold Group.closed
  split
  · exact ⟨h.groupId, h.config⟩
  · exact h

theorem returns_setPhase {phase : Phase} {y : Unit} :
    Returns world fuel (setPhase phase) g s y g' s' ↔ { g with phase } = g' ∧ s = s' := by
  simp [setPhase, and_comm]

theorem returns_finishFrom (phase : Phase) :
    Returns world fuel (do
        setPhase .finishing
        let outcome ← tryCatch finishPending fun e => do
          setPhase phase
          throw e
        setPhase (if outcome.isComplete then .idle else phase)
        return outcome) g s o g' s' ↔
      ∃ g₁, Returns world fuel finishPending { g with phase := .finishing } s o g₁ s' ∧
        { g₁ with phase := if o.isComplete then .idle else phase } = g' := by
  have hhandler : ∀ o g₁ g₂ s₁ s₂, Returns world fuel (tryCatch finishPending fun e => do
      setPhase phase
      throw e) g₁ s₁ o g₂ s₂ ↔ Returns world fuel finishPending g₁ s₁ o g₂ s₂ :=
    fun o g₁ g₂ s₁ s₂ => returns_tryCatch fun e g s => by simp
  simp only [returns_bind, returns_setPhase, hhandler, returns_pure]
  constructor
  · rintro ⟨_, _, _, ⟨rfl, rfl⟩, _, g₁, s₁, hpending, _, _, _, ⟨rfl, rfl⟩, rfl, rfl, rfl⟩
    exact ⟨g₁, hpending, rfl⟩
  · rintro ⟨g₁, hpending, rfl⟩
    exact ⟨(), _, _, ⟨rfl, rfl⟩, _, g₁, _, hpending, (), _, _, ⟨rfl, rfl⟩, rfl, rfl, rfl⟩

theorem returns_finish :
    Returns world fuel finish g s o g' s' ↔ (g.phase = .idle ∨ g.phase = .published) ∧
      ∃ g₁, Returns world fuel finishPending { g with phase := .finishing } s o g₁ s' ∧
        { g₁ with phase := if o.isComplete then .idle else g.phase } = g' := by
  simp only [finish, returns_bind, returns_get]
  constructor
  · rintro ⟨_, _, _, ⟨rfl, rfl, rfl⟩, h⟩
    split at h
    · exact ⟨.inl ‹_›, (returns_finishFrom _).mp h⟩
    · exact ⟨.inr ‹_›, (returns_finishFrom _).mp h⟩
    · exact absurd h returns_throw
  · rintro ⟨hphase, h⟩
    refine ⟨_, _, _, ⟨rfl, rfl, rfl⟩, ?_⟩
    split
    · exact (returns_finishFrom _).mpr h
    · exact (returns_finishFrom _).mpr h
    · rename_i hidle hpublished
      exact absurd hphase (not_or.mpr ⟨hidle, hpublished⟩)

theorem returns_pendingOutputs {token groupId : String} {pending : List Output} :
    Returns world fuel (Attempt.request (.pendingOutputs token groupId)) g s pending g' s' ↔
      s.server.pending = pending ∧ g = g' ∧ s = s' := by
  rw [returns_request]
  constructor
  · rintro ⟨hanswer, rfl⟩
    obtain ⟨hpending, rfl⟩ := Prod.mk.inj hanswer
    exact ⟨Except.ok.inj (Option.some.inj hpending), rfl, rfl⟩
  · rintro ⟨rfl, rfl, rfl⟩
    exact ⟨rfl, rfl⟩

theorem returns_closing (waiting : List Output) (outcome : Outcome) (m : Metric)
    (n n' : Log.Notice) :
    Returns world fuel (do
        if waiting.isEmpty then
          modifyRecord ({ · with keyUpdate := false })
          Attempt.notice n
        else
          Attempt.notice n'
        persist
        Attempt.metric m
        return outcome) g s o g' s' ↔
      Returns world fuel persist (g.closed waiting) s () g' s' ∧ outcome = o := by
  cases waiting with
  | nil =>
      simp only [List.isEmpty_nil, if_true, modifyRecord, closed_nil, returns_bind, returns_get,
        returns_set, returns_notice, returns_metric, returns_pure]
      constructor
      · rintro ⟨_, _, _, ⟨_, _, _, ⟨rfl, rfl, rfl⟩, rfl, rfl⟩, _, _, _, ⟨rfl, rfl⟩, _, _, _,
          hpersist, _, _, _, ⟨rfl, rfl⟩, rfl, rfl, rfl⟩
        exact ⟨hpersist, rfl⟩
      · rintro ⟨hpersist, rfl⟩
        exact ⟨(), _, _, ⟨_, _, _, ⟨rfl, rfl, rfl⟩, rfl, rfl⟩, (), _, _, ⟨rfl, rfl⟩, (), _, _,
          hpersist, (), _, _, ⟨rfl, rfl⟩, rfl, rfl, rfl⟩
  | cons o rest =>
      simp only [List.isEmpty_cons, Bool.false_eq_true, if_false, returns_bind, returns_notice,
        returns_metric, returns_pure]
      rw [closed_of_ne_nil _ (List.cons_ne_nil o rest)]
      constructor
      · rintro ⟨_, _, _, ⟨rfl, rfl⟩, _, _, _, hpersist, _, _, _, ⟨rfl, rfl⟩, rfl, rfl, rfl⟩
        exact ⟨hpersist, rfl⟩
      · rintro ⟨hpersist, rfl⟩
        exact ⟨(), _, _, ⟨rfl, rfl⟩, (), _, _, hpersist, (), _, _, ⟨rfl, rfl⟩, rfl, rfl, rfl⟩

theorem returns_finishPending :
    Returns world fuel finishPending g s o g' s' ↔
      (s.server.pending = [] ∧ Outcome.completed 0 0 = o ∧ g = g' ∧ s = s') ∨
      (s.server.pending ≠ [] ∧ ∃ resolved rounds waiting g₁ s₁,
        Returns world fuel (catchUp 1 0 g.furtherRounds s.server.pending) g s
          (resolved, rounds, waiting) g₁ s₁ ∧
        Returns world fuel persist (g₁.closed waiting) s₁ () g' s' ∧
        outcomeWith resolved rounds waiting = o) := by
  simp only [finishPending, returns_bind, returns_get]
  constructor
  · rintro ⟨_, _, _, ⟨rfl, rfl, rfl⟩, pending, _, _, hasked, h⟩
    obtain ⟨rfl, rfl, rfl⟩ := returns_pendingOutputs.mp hasked
    by_cases hempty : s.server.pending = []
    · rw [if_pos (List.isEmpty_iff.mpr hempty)] at h
      simp only [returns_bind, returns_notice, returns_metric, returns_pure] at h
      obtain ⟨_, _, _, ⟨rfl, rfl⟩, _, _, _, ⟨rfl, rfl⟩, rfl, rfl, rfl⟩ := h
      exact .inl ⟨hempty, rfl, rfl, rfl⟩
    · rw [if_neg (by simpa using hempty)] at h
      simp only [returns_bind, returns_notice] at h
      obtain ⟨_, _, _, ⟨rfl, rfl⟩, ⟨resolved, rounds, waiting⟩, g₁, s₁, hloop, h⟩ := h
      dsimp only at h
      obtain ⟨_, _, _, hused, h⟩ := h
      obtain ⟨rfl, rfl⟩ := returns_metric.mp hused
      obtain ⟨hpersist, houtcome⟩ := (returns_closing waiting _ _ _ _).mp h
      exact .inr ⟨hempty, resolved, rounds, waiting, g₁, s₁, hloop, hpersist, houtcome⟩
  · rintro (⟨hempty, rfl, rfl, rfl⟩ |
      ⟨hne, resolved, rounds, waiting, g₁, s₁, hloop, hpersist, rfl⟩)
    · refine ⟨_, _, _, ⟨rfl, rfl, rfl⟩, _, _, _, returns_pendingOutputs.mpr ⟨rfl, rfl, rfl⟩, ?_⟩
      rw [if_pos (List.isEmpty_iff.mpr hempty)]
      simp only [returns_bind, returns_notice, returns_metric, returns_pure]
      exact ⟨(), _, _, ⟨rfl, rfl⟩, (), _, _, ⟨rfl, rfl⟩, trivial, rfl, rfl⟩
    · refine ⟨_, _, _, ⟨rfl, rfl, rfl⟩, _, _, _, returns_pendingOutputs.mpr ⟨rfl, rfl, rfl⟩, ?_⟩
      rw [if_neg (by simpa using hne)]
      simp only [returns_bind, returns_notice]
      refine ⟨(), _, _, ⟨rfl, rfl⟩, (resolved, rounds, waiting), g₁, s₁, hloop, ?_⟩
      refine ⟨(), _, _, returns_metric.mpr ⟨rfl, rfl⟩, ?_⟩
      exact (returns_closing waiting _ _ _ _).mpr ⟨hpersist, rfl⟩

theorem eq_of_persist {y : Unit} (h : Returns world fuel persist g s y g' s') : g = g' := by
  simp only [persist, Record.store, returns_bind, returns_get, returns_notice] at h
  obtain ⟨_, _, _, ⟨rfl, rfl, rfl⟩, _, _, _, ⟨rfl, rfl⟩, hwrite⟩ := h
  exact (returns_request.mp hwrite).2

theorem returns_persist (h : s.clock.deadline = none) : ∃ clock : Clock, clock.deadline = none ∧
    ∀ g' s', Returns world fuel persist g s () g' s' ↔ g = g' ∧
      { s with
        clock
        store := s.store.set (storeKey g.config.store.space g.record.groupId) g.record.save } =
        s' := by
  obtain ⟨clock, hclock, hanswer⟩ := answer_writeStore_untimed h
    (storeKey g.config.store.space g.record.groupId) g.record.save
  refine ⟨clock, hclock, fun g' s' => ?_⟩
  simp only [persist, Record.store, returns_bind, returns_get, returns_notice]
  constructor
  · rintro ⟨_, _, _, ⟨rfl, rfl, rfl⟩, _, _, _, ⟨rfl, rfl⟩, hwrite⟩
    obtain ⟨hwritten, rfl⟩ := returns_request.mp hwrite
    exact ⟨rfl, (Prod.mk.inj (hanswer.symm.trans hwritten)).2⟩
  · rintro ⟨rfl, rfl⟩
    exact ⟨_, _, _, ⟨rfl, rfl, rfl⟩, (), _, _, ⟨rfl, rfl⟩, returns_request.mpr ⟨hanswer, rfl⟩⟩

theorem akin_catchUp {round resolved left : Nat} {pending : List Output}
    {r : Nat × Nat × List Output}
    (h : Returns world fuel (catchUp round resolved left pending) g s r g' s') :
    Akin g g' ∧ g'.phase = g.phase := by
  have hkeep : Preserves world fuel (fun g' _ => Akin g g' ∧ g'.phase = g.phase)
      (catchUp round resolved left pending) :=
    preserves_catchUp (fun _ _ _ _ h => h)
      (fun _ _ _ _ h _ => ⟨⟨h.1.groupId, h.1.config⟩, h.2⟩) round resolved left pending
  exact (hkeep g s ⟨⟨rfl, rfl⟩, rfl⟩).of_returns h

theorem phase_finishPending (h : Returns world fuel finishPending g s o g' s') :
    g'.phase = g.phase := by
  rcases returns_finishPending.mp h with ⟨-, -, rfl, -⟩ |
    ⟨-, resolved, rounds, waiting, g₁, s₁, hloop, hpersist, -⟩
  · rfl
  · rw [← eq_of_persist hpersist, phase_closed]
    exact (akin_catchUp hloop).2

end Keyring.Group
