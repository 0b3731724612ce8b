import Keyring.Proofs.Group.CatchUp

namespace Keyring.Group

open Keyring.Memory Keyring.Rotation

/-- The number of rounds that may follow the first. -/
def furtherRounds (g : Group) : Nat :=
  g.config.rotation.maxRounds.toNat - 1

/-- The group after a finish run has come to a board: it is marked as up to date if nothing waits.
-/
def noted (g : Group) (b : Board) : Group :=
  if b.waiting.isEmpty then { g with record := { g.record with keyUpdate := false } } else g

/-- The group after a finish run that has come to a board. -/
def concluded (g : Group) (b : Board) : Group :=
  { noted g b with phase := if b.waiting.isEmpty then .idle else g.phase }

section Outcome

/-- The outcome of a loop that has come to its end. -/
def outcomeWith (resolved rounds : Nat) (waiting : List Output) : Outcome :=
  if waiting.isEmpty then .completed resolved rounds else .incomplete resolved rounds waiting

variable (resolved rounds : Nat) (waiting : List Output)

@[simp] theorem outcomeWith_resolved : (outcomeWith resolved rounds waiting).resolved = resolved := by
  cases waiting with
  | nil => rfl
  | cons o rest => rfl

@[simp] theorem outcomeWith_rounds : (outcomeWith resolved rounds waiting).rounds = rounds := by
  cases waiting with
  | nil => rfl
  | cons o rest => rfl

@[simp] theorem outcomeWith_unresolved :
    (outcomeWith resolved rounds waiting).unresolved = waiting := by
  cases waiting with
  | nil => rfl
  | cons o rest => rfl

@[simp] theorem outcomeWith_isComplete :
    (outcomeWith resolved rounds waiting).isComplete = waiting.isEmpty := by
  cases waiting with
  | nil => rfl
  | cons o rest => rfl

end Outcome

/-- The outcome of a finish run of some rounds. -/
def outcomeAfter (actor : Actor) (b : Board) (rounds : Nat) : Outcome :=
  let waiting := (b.after actor rounds).waiting
  let resolved := b.waiting.length - waiting.length
  if waiting.isEmpty then .completed resolved rounds else .incomplete resolved rounds waiting

/-- Whether a run ends with a number of rounds: it is the first that leaves nothing, or the last. -/
def EndsWith (g : Group) (b : Board) (rounds : Nat) : Prop :=
  ∃ d, rounds = d + 1 ∧ d ≤ g.furtherRounds ∧
    (∀ i, i < d → (b.after g.actor (i + 1)).waiting ≠ []) ∧
    ((b.after g.actor (d + 1)).waiting = [] ∨ d = g.furtherRounds)

/-- Where a finish run may be broken off: within a round, or after the last one, before the record
is stored. -/
inductive BreaksOff (g : Group) (b : Board) : Group → Board → Prop where
  | within (d : Nat) (hd : d ≤ g.furtherRounds)
      (hbefore : ∀ i, i < d → (b.after g.actor (i + 1)).waiting ≠ []) (done todo : List Output)
      (hwaiting : (b.after g.actor d).waiting = done ++ todo) :
      BreaksOff g b g ((b.after g.actor d).brokenOff g.actor done)
  | unsaved (hwaiting : b.waiting ≠ []) (rounds : Nat) (hends : EndsWith g b rounds) :
      BreaksOff g b (noted g (b.after g.actor rounds)) (b.after g.actor rounds)

/-- The phase of a group after a finish run that was broken off. -/
def phaseAfter (phase : Phase) : Halt → Phase
  | .failed _ => phase
  | .cut | .exhausted => .finishing

section Noted

variable (g : Group) (b : Board) (phase : Phase)

theorem noted_config : (noted g b).config = g.config := by
  unfold noted
  split <;> rfl

theorem noted_groupId : (noted g b).record.groupId = g.record.groupId := by
  unfold noted
  split <;> rfl

theorem noted_setPhase : noted { g with phase } b = { noted g b with phase } := by
  unfold noted
  split <;> rfl

end Noted

theorem isComplete_outcomeAfter (actor : Actor) (b : Board) (rounds : Nat) :
    (outcomeAfter actor b rounds).isComplete = (b.after actor rounds).waiting.isEmpty :=
  outcomeWith_isComplete ..

theorem rounds_outcomeAfter (actor : Actor) (b : Board) (rounds : Nat) :
    (outcomeAfter actor b rounds).rounds = rounds :=
  outcomeWith_rounds ..

theorem BreaksOff.phase_eq {g g' : Group} {b b' : Board} (h : BreaksOff g b g' b') :
    g'.phase = g.phase := by
  cases h with
  | within => rfl
  | unsaved =>
      unfold noted
      split <;> rfl

theorem BreaksOff.self (g : Group) (b : Board) : BreaksOff g b g b := by
  have h := BreaksOff.within (g := g) (b := b) 0 (Nat.zero_le _) (by omega) [] b.waiting rfl
  rwa [Board.after, Board.brokenOff_nil] at h

theorem BreaksOff.setPhase {g g' : Group} {b b' : Board} (h : BreaksOff g b g' b') (phase : Phase) :
    BreaksOff { g with phase } b { g' with phase } b' := by
  cases h with
  | within d hd hbefore done todo hwaiting =>
      exact BreaksOff.within (g := { g with phase }) d hd hbefore done todo hwaiting
  | unsaved hwaiting rounds hends =>
      rw [← noted_setPhase]
      exact .unsaved hwaiting rounds hends

variable {S : Type} {w : World S} {view : S → State} {steady : S → Prop} {hindered : Prop}
  {fuel : Nat} {g₀ g : Group} {s : S} {store : Store} {b : Board} {X : Halt → Group → S → Prop}

namespace Stands

theorem config_eq (h : Stands view g₀ store b g s) : g.config = g₀.config := by
  obtain ⟨_, rfl, -, -⟩ := h.group
  rfl

theorem phase_eq (h : Stands view g₀ store b g s) : g.phase = g₀.phase := by
  obtain ⟨_, rfl, -, -⟩ := h.group
  rfl

theorem groupId_eq (h : Stands view g₀ store b g s) : g.record.groupId = g₀.record.groupId := by
  obtain ⟨_, rfl, -, -⟩ := h.group
  rfl

theorem setPhase (h : Stands view g₀ store b g s) (phase : Phase) :
    Stands view { g₀ with phase } store b { g with phase } s := by
  obtain ⟨history, rfl, hsound, hkeys⟩ := h.group
  exact ⟨⟨history, rfl, hsound, hkeys⟩, h.log, h.pending, h.store, h.plain⟩

theorem noted_of_isEmpty (h : Stands view g₀ store b g s) (hempty : b.waiting.isEmpty) :
    Stands view (noted g₀ b) store b { g with record := { g.record with keyUpdate := false } }
      s := by
  obtain ⟨history, rfl, hsound, hkeys⟩ := h.group
  refine ⟨⟨history, ?_, hsound, hkeys⟩, h.log, h.pending, h.store, h.plain⟩
  rw [noted, if_pos hempty]

theorem noted_of_not_isEmpty (h : Stands view g₀ store b g s) (hwait : ¬ b.waiting.isEmpty) :
    Stands view (noted g₀ b) store b g s := by
  rw [noted, if_neg hwait]
  exact h

end Stands

theorem persist_ensures (hf : Follows w view steady hindered) (hs : steady s)
    (hstands : Stands view g₀ store b g s) {Q : Unit → Group → S → Prop}
    (hQ : ∀ s', Stands view g₀
      (store.set (storeKey g₀.config.store.space g₀.record.groupId) g.record.save) b g s' →
      steady s' → Q () g s')
    (hX : hindered → ∀ halt s', Stands view g₀ store b g s' → steady s' → X halt g s') :
    Attempt.Ensures w fuel persist Q X g s := by
  simp only [persist, Record.store, Attempt.ensures_bind, Attempt.ensures_get,
    Attempt.ensures_notice]
  refine hf.ensures_writeStore hs _ _ ?_ ?_
  · intro s' hview hsteady
    rw [hstands.config_eq, hstands.groupId_eq, hstands.store] at hview
    refine hQ s' ⟨hstands.group, ?_, ?_, ?_, ?_⟩ hsteady
    · rw [hview]
      exact hstands.log
    · rw [hview]
      exact hstands.pending
    · rw [hview]
    · rw [hview]
      exact hstands.plain
  · exact fun hh halt s' hview => hX hh halt s' (hstands.of_view_eq hview)

/-- The pending outputs are worked off round by round; then the record is stored. -/
theorem finishPending_ensures (hf : Follows w view steady hindered) (hs : steady s)
    (hstands : Stands view g₀ store b g s) (hready : b.Ready) (hfuel : 2 ≤ fuel)
    {Q : Outcome → Group → S → Prop}
    (hnone : b.waiting = [] → ∀ s', view s' = view s → steady s' → Q (.completed 0 0) g s')
    (hQ : b.waiting ≠ [] → ∀ rounds, EndsWith g₀ b rounds → ∀ g' s',
      Stands view (noted g₀ (b.after g₀.actor rounds))
        (store.set (storeKey g₀.config.store.space g₀.record.groupId) g'.record.save)
        (b.after g₀.actor rounds) g' s' → steady s' → Q (outcomeAfter g₀.actor b rounds) g' s')
    (hX : hindered → ∀ g₁ b₁, BreaksOff g₀ b g₁ b₁ → ∀ halt g' s',
      Stands view g₁ store b₁ g' s' → steady s' → X halt g' s') :
    Attempt.Ensures w fuel finishPending Q X g s := by
  simp only [finishPending, Attempt.ensures_bind, Attempt.ensures_get]
  refine hf.ensures_pendingOutputs hs _ _ ?_ ?_
  · intro s₁ hview₁ hsteady₁
    have hstands₁ := hstands.of_view_eq hview₁
    simp only [hstands.pending]
    by_cases hempty : b.waiting = []
    · simp only [hempty, List.isEmpty_nil, if_true, Attempt.ensures_bind, Attempt.ensures_notice,
        Attempt.ensures_metric, Attempt.ensures_pure]
      exact hnone hempty s₁ hview₁ hsteady₁
    · simp only [if_neg (fun h => hempty (List.isEmpty_iff.mp h)), Attempt.ensures_bind,
        Attempt.ensures_notice]
      rw [hstands.config_eq]
      refine catchUp_ensures hf hsteady₁ hstands₁ hready hfuel 1 0 _ ?_ ?_
      · intro d hd hbefore hend g₂ s₂ hstands₂ hsteady₂
        have hends : EndsWith g₀ b (d + 1) := ⟨d, rfl, hd, hbefore, hend⟩
        have hunsaved := BreaksOff.unsaved hempty (d + 1) hends
        simp only [Attempt.ensures_bind, Attempt.ensures_metric, Nat.zero_add, Nat.add_comm 1 d]
        by_cases hwait : (b.after g₀.actor (d + 1)).waiting.isEmpty
        · simp only [hwait, if_true, modifyRecord, Attempt.ensures_bind, Attempt.ensures_get,
            Attempt.ensures_set, Attempt.ensures_notice]
          refine persist_ensures hf hsteady₂ (hstands₂.noted_of_isEmpty hwait) ?_ ?_
          · intro s₃ hstands₃ hsteady₃
            simp only [Attempt.ensures_bind, Attempt.ensures_metric, Attempt.ensures_pure]
            rw [noted_config, noted_groupId] at hstands₃
            have h := hQ hempty (d + 1) hends _ s₃ hstands₃ hsteady₃
            simpa only [outcomeAfter, hwait, if_true] using h
          · exact fun hh halt s₃ => hX hh _ _ hunsaved halt _ s₃
        · simp only [hwait, Bool.false_eq_true, if_false, Attempt.ensures_bind,
            Attempt.ensures_notice]
          refine persist_ensures hf hsteady₂ (hstands₂.noted_of_not_isEmpty hwait) ?_ ?_
          · intro s₃ hstands₃ hsteady₃
            simp only [Attempt.ensures_bind, Attempt.ensures_metric, Attempt.ensures_pure]
            rw [noted_config, noted_groupId] at hstands₃
            have h := hQ hempty (d + 1) hends _ s₃ hstands₃ hsteady₃
            simpa only [outcomeAfter, hwait, Bool.false_eq_true, if_false] using h
          · exact fun hh halt s₃ => hX hh _ _ hunsaved halt _ s₃
      · exact fun hh d hd hbefore done todo heq => hX hh _ _ (.within d hd hbefore done todo heq)
  · exact fun hh halt s₁ hview₁ =>
      hX hh g₀ b (.self g₀ b) halt g s₁ (hstands.of_view_eq hview₁)

theorem finish_of_finishPending (hphase : g.phase = .idle ∨ g.phase = .published)
    {Q : Outcome → Group → S → Prop}
    (h : Attempt.Ensures w fuel finishPending
      (fun outcome g' => Q outcome
        { g' with phase := if outcome.isComplete then .idle else g.phase })
      (fun
        | .failed e, g' => X (.failed e) { g' with phase := g.phase }
        | halt, g' => X halt g') { g with phase := .finishing } s) :
    Attempt.Ensures w fuel finish Q X g s := by
  rcases hphase with hphase | hphase
  all_goals
    simp only [finish, setPhase, hphase, Attempt.ensures_bind, Attempt.ensures_get,
      Attempt.ensures_set, Attempt.ensures_tryCatch] at h ⊢
    refine h.mono (fun _ _ _ h => h) fun halt g' s' h => ?_
    cases halt with
    | failed e => exact h
    | cut => exact h
    | exhausted => exact h

theorem finish_ensures (hf : Follows w view steady hindered) (hs : steady s)
    (hstands : Stands view g₀ store b g s) (hready : b.Ready) (hfuel : 2 ≤ fuel)
    (hphase : g₀.phase = .idle ∨ g₀.phase = .published) {Q : Outcome → Group → S → Prop}
    (hnone : b.waiting = [] → ∀ s', view s' = view s → steady s' →
      Q (.completed 0 0) { g with phase := .idle } s')
    (hQ : b.waiting ≠ [] → ∀ rounds, EndsWith g₀ b rounds → ∀ g' s',
      Stands view (concluded g₀ (b.after g₀.actor rounds))
        (store.set (storeKey g₀.config.store.space g₀.record.groupId) g'.record.save)
        (b.after g₀.actor rounds) g' s' → steady s' → Q (outcomeAfter g₀.actor b rounds) g' s')
    (hX : hindered → ∀ g₁ b₁, BreaksOff g₀ b g₁ b₁ → ∀ halt g' s',
      Stands view { g₁ with phase := phaseAfter g₀.phase halt } store b₁ g' s' → steady s' →
      X halt g' s') :
    Attempt.Ensures w fuel finish Q X g s := by
  apply finish_of_finishPending (hstands.phase_eq ▸ hphase)
  rw [hstands.phase_eq]
  refine finishPending_ensures hf hs (hstands.setPhase .finishing) hready hfuel ?_ ?_ ?_
  · exact hnone
  · intro hempty rounds hends g' s' hstands' hsteady'
    rw [noted_setPhase] at hstands'
    rw [isComplete_outcomeAfter]
    exact hQ hempty rounds hends _ s' (hstands'.setPhase _) hsteady'
  · intro hh g₁ b₁ hbreaks halt g' s' hstands' hsteady'
    have hX' := hX hh { g₁ with phase := g₀.phase } b₁ (hbreaks.setPhase g₀.phase) halt
    have hcut : Stands view { g₁ with phase := g'.phase } store b₁ g' s' :=
      hstands'.setPhase g'.phase
    rw [hstands'.phase_eq.trans hbreaks.phase_eq] at hcut
    cases halt with
    | failed e => exact hX' _ s' (hstands'.setPhase _) hsteady'
    | cut => exact hX' g' s' hcut hsteady'
    | exhausted => exact hX' g' s' hcut hsteady'

end Keyring.Group
