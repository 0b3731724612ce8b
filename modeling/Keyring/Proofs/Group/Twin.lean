import Keyring.Proofs.Group.Leftover

namespace Keyring.Group

open Attempt Memory Rotation

/-- The group with a number of rounds for its finish runs. -/
def withRounds (g : Group) (n : UInt32) : Group :=
  { g with config := { g.config with rotation := { g.config.rotation with maxRounds := n } } }

variable {fuel : Nat} {n : UInt32} {store store' : Store} {g g' g₁ : Group} {s s' s₁ : State}

/-- A group in a simulation, and the same group with another number of rounds in an alike
simulation. -/
structure Twin (n : UInt32) (store store' : Store) (g : Group) (s : State) (g' : Group)
    (s' : State) : Prop where
  group : g' = g.withRounds n
  alike : State.Alike store store' s s'

theorem answered_twin {q : Request} (hq : (q.party == .store) = false) :
    Mirrored.Answered world (Twin n store store') q := by
  intro g s g' s' h x s₁ hanswer
  obtain ⟨hsame, hworld⟩ := h.alike.answer hq
  rw [hanswer] at hsame hworld
  exact ⟨(world.answer q s').2, Prod.ext hsame rfl, h.group, hworld⟩

theorem mirrored_get : Mirrored world fuel (Twin n store store')
    (fun g g' => g' = g.withRounds n) Attempt.get Attempt.get :=
  Mirrored.get fun _ _ _ _ h => h.group

theorem mirrored_resolve (round round' : Nat) (o : Output) (k : Key) :
    Mirrored world fuel (Twin n store store') (fun _ _ => True) (resolve round o k)
      (resolve round' o k) := by
  apply mirrored_get.bind
  rintro g _ rfl
  have hderive : Mirrored world fuel (Twin n store store') (· = ·)
      (tryCatch (Attempt.request (.deriveKey k o g.actor)) fun e => do
        Attempt.metric (.outputHandled .failed)
        throw e)
      (tryCatch (Attempt.request (.deriveKey k o (g.withRounds n).actor)) fun e => do
        Attempt.metric (.outputHandled .failed)
        throw e) := by
    apply Mirrored.tryCatch (Mirrored.request (answered_twin rfl))
    · intro e g s x g' s'
      simp
    · intro e g s x g' s'
      simp
  apply hderive.bind
  rintro key _ rfl
  exact (Mirrored.request (answered_twin rfl)).bind fun _ _ _ =>
    (Mirrored.notice _ _).bind fun _ _ _ => Mirrored.metric _ _

theorem mirrored_resolveKnown (round round' resolved : Nat) (deferred outputs : List Output) :
    Mirrored world fuel (Twin n store store') (· = ·)
      (resolveKnown round resolved deferred outputs)
      (resolveKnown round' resolved deferred outputs) := by
  induction outputs generalizing resolved deferred with
  | nil => exact Mirrored.pure rfl
  | cons o rest ih =>
      apply mirrored_get.bind
      rintro g _ rfl
      have hhistory : (g.withRounds n).record.history = g.record.history := rfl
      rw [hhistory]
      cases g.record.history.get? o.preKeyId with
      | some k => exact (mirrored_resolve _ _ o k).bind fun _ _ _ => ih _ _
      | none =>
          exact (Mirrored.notice _ _).bind fun _ _ _ => (Mirrored.metric _ _).bind fun _ _ _ =>
            ih _ _

theorem mirrored_append (keys : List Key) :
    Mirrored world fuel (Twin n store store') (· = ·) (append keys) (append keys) := by
  apply mirrored_get.bind
  rintro g _ rfl
  apply (Mirrored.settle _).bind
  rintro history _ rfl
  refine (Mirrored.tellAll _ _).bind fun _ _ _ => ?_
  exact (Mirrored.set fun _ _ _ _ h => ⟨rfl, h.alike⟩).bind fun _ _ _ => Mirrored.pure rfl

theorem mirrored_fetchNew (token : String) (threshold : UInt64) :
    Mirrored world fuel (Twin n store store') (· = ·) (fetchNew token threshold)
      (fetchNew token threshold) := by
  apply mirrored_get.bind
  rintro g _ rfl
  apply (Mirrored.settle _).bind
  rintro cursor _ rfl
  apply (Mirrored.gather fun _ => answered_twin rfl).bind
  rintro gathered _ rfl
  dsimp only [withRounds]
  split
  · exact (Mirrored.notice _ _).bind fun _ _ _ => mirrored_append _
  · exact mirrored_append _

theorem mirrored_finishRound (round round' left left' : Nat) (pending : List Output) :
    Mirrored world fuel (Twin n store store') (· = ·) (finishRound round left pending)
      (finishRound round' left' pending) := by
  apply (mirrored_resolveKnown round round' 0 [] pending).bind
  rintro r _ rfl
  apply mirrored_get.bind
  rintro g _ rfl
  refine (mirrored_fetchNew _ _).bind fun _ _ _ => ?_
  exact (Mirrored.notice _ _).bind fun _ _ _ => Mirrored.pure rfl

theorem mirrored_catchUp (d c round resolved left : Nat) (pending : List Output) :
    Mirrored world fuel (Twin n store store') (fun x y => y = (c + x.1, d + x.2.1, x.2.2))
      (catchUp round resolved left pending) (catchUp (d + round) (c + resolved) left pending) := by
  induction left generalizing round resolved pending with
  | zero =>
      apply (mirrored_finishRound round (d + round) 0 0 pending).bind
      rintro ⟨more, deferred⟩ _ rfl
      exact Mirrored.pure (by rw [Nat.add_assoc])
  | succ left ih =>
      apply (mirrored_finishRound round (d + round) (left + 1) (left + 1) pending).bind
      rintro ⟨more, deferred⟩ _ rfl
      dsimp only
      split
      · exact Mirrored.pure (by rw [Nat.add_assoc])
      · have hrest := ih (round + 1) (resolved + more) deferred
        rwa [← Nat.add_assoc, ← Nat.add_assoc] at hrest

/-- A loop that may go on for longer does the same until the shorter one ends, and ends there, too,
if nothing waits any more; or else it goes on. -/
theorem catchUp_longer (b : Nat) {round resolved left : Nat} {pending : List Output}
    (h : Twin n store store' g s g' s') {resolved₁ rounds₁ : Nat} {waiting₁ : List Output}
    (hrun : Returns world fuel (catchUp round resolved left pending) g s
      (resolved₁, rounds₁, waiting₁) g₁ s₁) :
    ∃ g₁' s₁', Twin n store store' g₁ s₁ g₁' s₁' ∧
      (waiting₁ = [] → Returns world fuel (catchUp round resolved (b + 1 + left) pending) g' s'
        (resolved₁, rounds₁, []) g₁' s₁') ∧
      (waiting₁ ≠ [] → ∀ r g₂ s₂,
        Returns world fuel (catchUp (rounds₁ + 1) resolved₁ b waiting₁) g₁' s₁' r g₂ s₂ →
        Returns world fuel (catchUp round resolved (b + 1 + left) pending) g' s' r g₂ s₂) := by
  induction left generalizing round resolved pending g s g' s' with
  | zero =>
      obtain ⟨more, waiting, hround, hr⟩ := returns_catchUp_zero.mp hrun
      obtain ⟨rfl, rfl, rfl⟩ : resolved + more = resolved₁ ∧ round = rounds₁ ∧ waiting = waiting₁ := by
        simpa using hr
      obtain ⟨_, g₂', s₂', hround', rfl, htwin⟩ :=
        mirrored_finishRound round round 0 (b + 1) pending h hround
      refine ⟨g₂', s₂', htwin, ?_, ?_⟩
      · rintro rfl
        exact returns_catchUp_succ.mpr ⟨_, _, _, _, hround', .inl ⟨rfl, rfl, rfl, rfl⟩⟩
      · intro hwait r g₃ s₃ hmore
        exact returns_catchUp_succ.mpr ⟨_, _, _, _, hround', .inr ⟨hwait, hmore⟩⟩
  | succ left ih =>
      obtain ⟨more, waiting, g₂, s₂, hround, hrest⟩ := returns_catchUp_succ.mp hrun
      obtain ⟨_, g₂', s₂', hround', rfl, htwin⟩ :=
        mirrored_finishRound round round (left + 1) (b + 1 + left + 1) pending h hround
      rcases hrest with ⟨rfl, hr, rfl, rfl⟩ | ⟨hwait, hrest⟩
      · obtain ⟨rfl, rfl, rfl⟩ : resolved + more = resolved₁ ∧ round = rounds₁ ∧ [] = waiting₁ := by
          simpa using hr
        refine ⟨g₂', s₂', htwin, fun _ => ?_, fun hwait => absurd rfl hwait⟩
        exact returns_catchUp_succ.mpr ⟨_, _, _, _, hround', .inl ⟨rfl, rfl, rfl, rfl⟩⟩
      · obtain ⟨g₃', s₃', htwin', hended, hgone⟩ := ih htwin hrest
        refine ⟨g₃', s₃', htwin', fun hempty => ?_, fun hwait₁ r g₄ s₄ hmore => ?_⟩
        · exact returns_catchUp_succ.mpr ⟨_, _, _, _, hround', .inr ⟨hwait, hended hempty⟩⟩
        · exact returns_catchUp_succ.mpr
            ⟨_, _, _, _, hround', .inr ⟨hwait, hgone hwait₁ r g₄ s₄ hmore⟩⟩

end Keyring.Group
