import Keyring.Group.Rotation
import Keyring.Proofs.Group.Fetch
import Keyring.Proofs.Rotation.Board

namespace Keyring.Group

open Keyring.Memory Keyring.Rotation

/-- A server after an output has been resolved, if its start key is held. -/
def settleOutput (actor : Actor) (held : List Key) (server : Server) (o : Output) : Server :=
  match held.find? (·.id == o.preKeyId) with
  | some k => server.commit o (Engine.rotatedKey k o actor)
  | none => server

section SettleOutput

variable (actor : Actor) (held : List Key) (server : Server) (outputs : List Output)

theorem log_foldl_settleOutput :
    (outputs.foldl (settleOutput actor held) server).log =
      outputs.foldl (resolveInto actor held) server.log := by
  induction outputs generalizing server with
  | nil => rfl
  | cons o rest ih =>
      rw [List.foldl_cons, List.foldl_cons, ih]
      congr 1
      rw [settleOutput, resolveInto]
      cases held.find? (·.id == o.preKeyId) <;> rfl

theorem pending_foldl_settleOutput :
    (outputs.foldl (settleOutput actor held) server).pending =
      server.pending.filter fun o => !(outputs.contains o && knows held o) := by
  induction outputs generalizing server with
  | nil => simp
  | cons o rest ih =>
      rw [List.foldl_cons, ih]
      cases hk : knows held o with
      | false =>
          have hnone : held.find? (·.id == o.preKeyId) = none := by simpa [knows] using hk
          rw [settleOutput, hnone]
          apply List.filter_congr
          intro p _
          by_cases hp : p = o
          · simp [hp, hk]
          · simp [hp]
      | true =>
          obtain ⟨k, hfind, -, -⟩ := exists_resolveInto_eq actor [] hk
          have hstep : (settleOutput actor held server o).pending =
              server.pending.filter (· ≠ o) := by
            rw [settleOutput, hfind]
            rfl
          rw [hstep, List.filter_filter]
          apply List.filter_congr
          intro p _
          by_cases hp : p = o
          · simp [hp, hk]
          · simp [hp]

theorem plain_foldl_settleOutput :
    (outputs.foldl (settleOutput actor held) server).delayed = server.delayed ∧
      (outputs.foldl (settleOutput actor held) server).scripted = server.scripted := by
  induction outputs generalizing server with
  | nil => exact ⟨rfl, rfl⟩
  | cons o rest ih =>
      rw [List.foldl_cons, (ih _).1, (ih _).2, settleOutput]
      cases held.find? (·.id == o.preKeyId) <;> exact ⟨rfl, rfl⟩

end SettleOutput

variable {S : Type} {w : World S} {view : S → State} {steady : S → Prop} {hindered : Prop}
  {fuel : Nat} {g : Group} {s : S} {X : Halt → Group → S → Prop}

theorem resolve_ensures (hf : Follows w view steady hindered) (hs : steady s) (round : Nat)
    {o : Output} {k : Key} (hid : k.id = o.preKeyId) {Q : Unit → Group → S → Prop}
    (hQ : ∀ s', view s' = { view s with
      server := (view s).server.commit o (Engine.rotatedKey k o g.actor) } → steady s' → Q () g s')
    (hX : hindered → ∀ halt s', view s' = view s → steady s' → X halt g s') :
    Attempt.Ensures w fuel (resolve round o k) Q X g s := by
  simp only [resolve, Attempt.ensures_bind, Attempt.ensures_get, Attempt.ensures_tryCatch]
  refine hf.ensures_deriveKey hs g.actor hid ?_ ?_
  · intro s₁ hview₁ hsteady₁
    rw [Attempt.ensures_bind]
    refine hf.ensures_commitKey hsteady₁ _ _ _ _ ?_ ?_
    · intro s₂ hview₂ hsteady₂
      simp only [Attempt.ensures_bind, Attempt.ensures_notice, Attempt.ensures_metric]
      exact hQ s₂ (hview₂.trans (by rw [hview₁])) hsteady₂
    · exact fun hh halt s₂ hview₂ => hX hh halt s₂ (hview₂.trans hview₁)
  · intro hh halt s₁ hview₁ hsteady₁
    cases halt with
    | failed e => simpa using hX hh (.failed e) s₁ hview₁ hsteady₁
    | cut => exact hX hh .cut s₁ hview₁ hsteady₁
    | exhausted => exact hX hh .exhausted s₁ hview₁ hsteady₁

theorem resolveKnown_ensures (hf : Follows w view steady hindered) (hs : steady s)
    (hsound : g.record.history.Sound) (round resolved : Nat) (deferred outputs : List Output)
    {Q : Nat × List Output → Group → S → Prop}
    (hQ : ∀ s', view s' = { view s with
        server := outputs.foldl (settleOutput g.actor g.record.history.keys) (view s).server } →
      steady s' → Q (resolved + outputs.countP (knows g.record.history.keys),
        deferred.reverse ++ outputs.filter (!knows g.record.history.keys ·)) g s')
    (hX : hindered → ∀ done todo, outputs = done ++ todo → ∀ halt s', view s' = { view s with
        server := done.foldl (settleOutput g.actor g.record.history.keys) (view s).server } →
      steady s' → X halt g s') :
    Attempt.Ensures w fuel (resolveKnown round resolved deferred outputs) Q X g s := by
  induction outputs generalizing resolved deferred s with
  | nil =>
      simp only [resolveKnown, Attempt.ensures_pure]
      simpa using hQ s rfl hs
  | cons o rest ih =>
      simp only [resolveKnown, Attempt.ensures_bind, Attempt.ensures_get, hsound.get?_eq_find?]
      cases hfind : g.record.history.keys.find? (·.id == o.preKeyId) with
      | none =>
          have hk : knows g.record.history.keys o = false := by
            simpa [knows] using hfind
          have hskip : ∀ server, settleOutput g.actor g.record.history.keys server o = server :=
            fun server => by rw [settleOutput, hfind]
          simp only [Attempt.ensures_bind, Attempt.ensures_notice, Attempt.ensures_metric]
          refine ih hs resolved (o :: deferred) ?_ ?_
          · intro s' hview hsteady
            have h := hQ s' (by rw [List.foldl_cons, hskip, hview]) hsteady
            simpa [hk] using h
          · intro hh done todo heq halt s' hview hsteady
            exact hX hh (o :: done) todo (by rw [heq]; rfl) halt s'
              (by rw [List.foldl_cons, hskip, hview]) hsteady
      | some k =>
          have hk : knows g.record.history.keys o = true := by
            have hsome : (g.record.history.keys.find? (·.id == o.preKeyId)).isSome = true := by
              rw [hfind]
              rfl
            simpa [knows] using hsome
          have hid : k.id = o.preKeyId := by simpa using List.find?_some hfind
          have hstep : ∀ server, settleOutput g.actor g.record.history.keys server o =
              server.commit o (Engine.rotatedKey k o g.actor) :=
            fun server => by rw [settleOutput, hfind]
          simp only [Attempt.ensures_bind]
          refine resolve_ensures hf hs round hid ?_ ?_
          · intro s₁ hview₁ hsteady₁
            refine ih hsteady₁ (resolved + 1) deferred ?_ ?_
            · intro s' hview hsteady
              have h := hQ s' (by rw [List.foldl_cons, hstep, hview, hview₁]) hsteady
              have hcount : resolved + 1 + rest.countP (knows g.record.history.keys) =
                  resolved + (o :: rest).countP (knows g.record.history.keys) := by
                rw [List.countP_cons_of_pos hk]
                omega
              rw [hcount]
              simpa [hk] using h
            · intro hh done todo heq halt s' hview hsteady
              exact hX hh (o :: done) todo (by rw [heq]; rfl) halt s'
                (by rw [List.foldl_cons, hstep, hview, hview₁]) hsteady
          · intro hh halt s₁ hview₁ hsteady₁
            exact hX hh [] (o :: rest) rfl halt s₁ (by rw [hview₁]; rfl) hsteady₁

/-- Where a finish run stands: the group differs from `g₀` at most in its history, which holds the
keys of the board, and the server has the log and the waiting outputs of the board. -/
structure Stands (view : S → State) (g₀ : Group) (store : Store) (b : Board) (g : Group) (s : S) :
    Prop where
  group : ∃ h : History, g = g₀.withHistory h ∧ h.Sound ∧ h.keys = b.held
  log : (view s).server.log = b.log
  pending : (view s).server.pending = b.waiting
  store : (view s).store = store
  plain : Follows.Plain (view s)

variable {g₀ : Group} {store : Store} {b : Board}

theorem Stands.of_view_eq {s' : S} (h : Stands view g₀ store b g s) (hview : view s' = view s) :
    Stands view g₀ store b g s' :=
  ⟨h.group, hview ▸ h.log, hview ▸ h.pending, hview ▸ h.store, hview ▸ h.plain⟩

theorem Stands.actor_eq (h : Stands view g₀ store b g s) : g.actor = g₀.actor := by
  obtain ⟨_, rfl, -, -⟩ := h.group
  rfl

theorem Stands.settle (h : Stands view g₀ store b g s) (done : List Output) {s' : S}
    (hview : view s' = { view s with
      server := done.foldl (settleOutput g.actor g.record.history.keys) (view s).server }) :
    Stands view g₀ store (b.brokenOff g₀.actor done) g s' := by
  have hactor := h.actor_eq
  obtain ⟨history, hg, hsound, hkeys⟩ := h.group
  have hheld : g.record.history.keys = b.held := by rw [hg]; exact hkeys
  rw [hactor, hheld] at hview
  have hplain := plain_foldl_settleOutput g₀.actor b.held (view s).server done
  refine ⟨⟨history, hg, hsound, hkeys⟩, ?_, ?_, ?_, ?_, ?_⟩
  · rw [hview, log_foldl_settleOutput, h.log]
    rfl
  · rw [hview, pending_foldl_settleOutput, h.pending]
    rfl
  · rw [hview]
    exact h.store
  · rw [hview, hplain.1]
    exact h.plain.1
  · rw [hview, hplain.2]
    exact h.plain.2

/-- A round of the loop is a round of the board. -/
theorem finishRound_ensures (hf : Follows w view steady hindered) (hs : steady s)
    (hstands : Stands view g₀ store b g s) (hready : b.Ready) (hfuel : 2 ≤ fuel)
    (round left : Nat) {Q : Nat × List Output → Group → S → Prop}
    (hQ : ∀ g' s', Stands view g₀ store (b.round g₀.actor) g' s' → steady s' →
      Q (b.waiting.countP (knows b.held), (b.round g₀.actor).waiting) g' s')
    (hX : hindered → ∀ done todo, b.waiting = done ++ todo → ∀ halt g' s',
      Stands view g₀ store (b.brokenOff g₀.actor done) g' s' → steady s' → X halt g' s') :
    Attempt.Ensures w fuel (finishRound round left b.waiting) Q X g s := by
  obtain ⟨history, hg, hsound, hkeys⟩ := hstands.group
  have hsound' : g.record.history.Sound := by rw [hg]; exact hsound
  have hheld : g.record.history.keys = b.held := by rw [hg]; exact hkeys
  simp only [finishRound, Attempt.ensures_bind]
  refine resolveKnown_ensures hf hs hsound' round 0 [] b.waiting ?_ ?_
  · intro s₁ hview₁ hsteady₁
    have hstands₁ := hstands.settle b.waiting hview₁
    have hlog₁ : (view s₁).server.log = (b.round g₀.actor).log := hstands₁.log
    simp only [Attempt.ensures_bind, Attempt.ensures_get]
    refine fetchNew_ensures hf hsteady₁ hstands₁.plain hsound' ?_ ?_ ?_ hfuel _ _ ?_ ?_
    · exact hheld ▸ hready.held_ne_nil
    · rw [hheld, hlog₁]
      exact hready.held_within.trans (b.log_prefix_round g₀.actor)
    · rw [hlog₁]
      exact hready.round.chronicle
    · intro n h s₂ hsound₂ hkeys₂ hview₂ hsteady₂
      simp only [Attempt.ensures_bind, Attempt.ensures_notice, Attempt.ensures_pure]
      have hstands₂ : Stands view g₀ store (b.round g₀.actor) (g.withHistory h) s₂ := by
        refine ⟨⟨h, by rw [hg], hsound₂, hkeys₂.trans hlog₁⟩, ?_, ?_, ?_, ?_⟩
        · rw [hview₂, hlog₁]
        · rw [hview₂, hstands₁.pending, ← b.remaining_waiting g₀.actor]
          rfl
        · rw [hview₂, hstands₁.store]
        · rw [hview₂]
          exact hstands₁.plain
      have h := hQ _ s₂ hstands₂ hsteady₂
      rw [hheld]
      simpa [Board.round] using h
    · intro hh halt s₂ hview₂ hsteady₂
      exact hX hh b.waiting [] (by simp) halt g s₂ (hstands₁.of_view_eq hview₂) hsteady₂
  · intro hh done todo heq halt s₁ hview₁ hsteady₁
    exact hX hh done todo heq halt g s₁ (hstands.settle done hview₁) hsteady₁

/-- The loop ends after the first round that leaves nothing, or with its last round. -/
theorem catchUp_ensures (hf : Follows w view steady hindered) (hs : steady s)
    (hstands : Stands view g₀ store b g s) (hready : b.Ready) (hfuel : 2 ≤ fuel)
    (round resolved left : Nat) {Q : Nat × Nat × List Output → Group → S → Prop}
    (hQ : ∀ d, d ≤ left → (∀ i, i < d → (b.after g₀.actor (i + 1)).waiting ≠ []) →
      ((b.after g₀.actor (d + 1)).waiting = [] ∨ d = left) → ∀ g' s',
      Stands view g₀ store (b.after g₀.actor (d + 1)) g' s' → steady s' →
      Q (resolved + (b.waiting.length - (b.after g₀.actor (d + 1)).waiting.length), round + d,
        (b.after g₀.actor (d + 1)).waiting) g' s')
    (hX : hindered → ∀ d, d ≤ left → (∀ i, i < d → (b.after g₀.actor (i + 1)).waiting ≠ []) →
      ∀ done todo, (b.after g₀.actor d).waiting = done ++ todo → ∀ halt g' s',
      Stands view g₀ store ((b.after g₀.actor d).brokenOff g₀.actor done) g' s' → steady s' →
      X halt g' s') :
    Attempt.Ensures w fuel (catchUp round resolved left b.waiting) Q X g s := by
  induction left generalizing b round resolved g s with
  | zero =>
      simp only [catchUp, Attempt.ensures_bind]
      refine finishRound_ensures hf hs hstands hready hfuel round 0 ?_ ?_
      · intro g₁ s₁ hstands₁ hsteady₁
        rw [Attempt.ensures_pure, b.countP_knows_eq g₀.actor]
        exact hQ 0 (Nat.le_refl 0) (by omega) (.inr rfl) g₁ s₁ hstands₁ hsteady₁
      · exact fun hh => hX hh 0 (Nat.le_refl 0) (by omega)
  | succ left ih =>
      simp only [catchUp, Attempt.ensures_bind]
      refine finishRound_ensures hf hs hstands hready hfuel round (left + 1) ?_ ?_
      · intro g₁ s₁ hstands₁ hsteady₁
        simp only [b.countP_knows_eq g₀.actor]
        by_cases hempty : (b.round g₀.actor).waiting = []
        · rw [if_pos (List.isEmpty_iff.mpr hempty), Attempt.ensures_pure]
          exact hQ 0 (Nat.zero_le _) (by omega) (.inl hempty) g₁ s₁ hstands₁ hsteady₁
        · rw [if_neg (fun h => hempty (List.isEmpty_iff.mp h))]
          -- From here on the rounds are those of the next board, and one more in all.
          have hlater : ∀ d,
              (∀ i, i < d → ((b.round g₀.actor).after g₀.actor (i + 1)).waiting ≠ []) →
              ∀ i, i < d + 1 → (b.after g₀.actor (i + 1)).waiting ≠ [] := by
            intro d hbefore i hi
            cases i with
            | zero => exact hempty
            | succ i => exact hbefore i (by omega)
          refine ih hsteady₁ hstands₁ hready.round (round + 1) _ ?_ ?_
          · intro d hd hbefore hend g' s' hstands' hsteady'
            have h := hQ (d + 1) (by omega) (hlater d hbefore)
              (hend.imp id fun heq => by omega) g' s' hstands' hsteady'
            have hround := (b.waiting_after_sublist g₀.actor 1).length_le
            have hle := ((b.round g₀.actor).waiting_after_sublist g₀.actor (d + 1)).length_le
            simp only [Board.after] at hround hle h ⊢
            convert h using 2
            · omega
            · congr 1
              omega
          · exact fun hh d hd hbefore => hX hh (d + 1) (by omega) (hlater d hbefore)
      · exact fun hh => hX hh 0 (Nat.zero_le _) (by omega)

end Keyring.Group
