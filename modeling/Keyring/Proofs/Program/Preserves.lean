import Keyring.Proofs.Program.Ensures

namespace Keyring

theorem Sweep.eq_of_take_eq_inl {s s' : Sweep} {batch : List Key} (h : s.take batch = .inl s') :
    ∃ cursor batches, s' = { s with cursor, batches } := by
  rcases s.take_cases batch with ⟨-, htake⟩ | ⟨last, -, -, htake⟩
  · exact absurd (htake.symm.trans h) Sum.inr_ne_inl
  · exact ⟨_, _, Sum.inl.inj (h.symm.trans htake)⟩

namespace Attempt

variable {σ S α β : Type} {w : World S} {fuel : Nat} {I : σ → S → Prop}

/-- Whether an attempt that starts within an invariant ends within it, with a result or without. -/
def Preserves (w : World S) (fuel : Nat) (I : σ → S → Prop) (a : Attempt σ α) : Prop :=
  ∀ g s, I g s → Ensures w fuel a (fun _ => I) (fun _ => I) g s

namespace Preserves

theorem pure (x : α) : Preserves w fuel I (Pure.pure x) :=
  fun _ _ h => h

theorem throw (e : Failure) : Preserves w fuel I (MonadExcept.throw e : Attempt σ α) :=
  fun _ _ h => h

theorem bind {a : Attempt σ α} {f : α → Attempt σ β} (ha : Preserves w fuel I a)
    (hf : ∀ x, Preserves w fuel I (f x)) : Preserves w fuel I (a >>= f) := by
  intro g s h
  rw [ensures_bind]
  exact (ha g s h).mono (fun x g' s' h' => hf x g' s' h') fun _ _ _ h' => h'

theorem get : Preserves w fuel I Attempt.get :=
  fun _ _ h => h

theorem get_bind {f : σ → Attempt σ β}
    (hf : ∀ g s, I g s → Ensures w fuel (f g) (fun _ => I) (fun _ => I) g s) :
    Preserves w fuel I (Attempt.get >>= f) := by
  intro g s h
  rw [ensures_bind, ensures_get]
  exact hf g s h

theorem settle (r : Except Failure α) : Preserves w fuel I (Attempt.settle r) := by
  intro g s h
  cases r with
  | ok x => exact h
  | error e => exact h

theorem tellAll (signals : List Signal) : Preserves w fuel I (Attempt.tellAll signals) := by
  intro g s h
  rw [ensures_tellAll]
  exact h

theorem notice (n : Log.Notice) : Preserves w fuel I (Attempt.notice n) :=
  tellAll _

theorem metric (m : Metric) : Preserves w fuel I (Attempt.metric m) :=
  tellAll _

theorem modify {f : σ → σ} (hf : ∀ g s, I g s → I (f g) s) :
    Preserves w fuel I (do let g ← Attempt.get; Attempt.set (f g)) := by
  intro g s h
  rw [ensures_bind, ensures_get, ensures_set]
  exact hf g s h

theorem request {q : Request} (hq : ∀ g s, I g s → I g (w.answer q s).2) :
    Preserves w fuel I (Attempt.request q) := by
  intro g s h
  have hs := hq g s h
  rw [ensures_request]
  rcases hr : w.answer q s with ⟨_ | _ | _, s'⟩
  all_goals
    rw [hr] at hs
    exact hs

theorem outcome {a : Attempt σ α} (ha : Preserves w fuel I a) :
    Preserves w fuel I (Attempt.outcome a) := by
  intro g s h
  rw [ensures_outcome]
  refine (ha g s h).mono (fun _ _ _ h' => h') fun halt g' s' h' => ?_
  cases halt with
  | failed e => exact h'
  | cut => exact h'
  | exhausted => exact h'

theorem tryCatch {a : Attempt σ α} {f : Failure → Attempt σ α} (ha : Preserves w fuel I a)
    (hf : ∀ e, Preserves w fuel I (f e)) : Preserves w fuel I (MonadExcept.tryCatch a f) := by
  intro g s h
  rw [ensures_tryCatch]
  refine (ha g s h).mono (fun _ _ _ h' => h') fun halt g' s' h' => ?_
  cases halt with
  | failed e => exact hf e g' s' h'
  | cut => exact h'
  | exhausted => exact h'

theorem mapM {f : α → Attempt σ β} (hf : ∀ x, Preserves w fuel I (f x)) (xs : List α) :
    Preserves w fuel I (xs.mapM f) := by
  induction xs with
  | nil => exact pure _
  | cons x rest ih =>
      rw [List.mapM_cons]
      exact (hf x).bind fun _ => ih.bind fun _ => pure _

theorem gather {sweep : Sweep}
    (hq : ∀ cursor g s, I g s → I g (w.answer (.fetchKeys sweep.token sweep.groupId cursor) s).2) :
    Preserves w fuel I (Attempt.gather sweep) := by
  intro g s h
  induction fuel generalizing sweep g s with
  | zero =>
      rw [ensures_gather, Sweep.run]
      exact h
  | succ fuel ih =>
      rw [ensures_gather_succ]
      refine (request (hq sweep.cursor) g s h).mono ?_ fun _ _ _ h' => h'
      intro batch g' s' h'
      cases htake : sweep.take batch with
      | inr keys => exact h'
      | inl sweep' =>
          obtain ⟨cursor, batches, rfl⟩ := Sweep.eq_of_take_eq_inl htake
          exact @ih { sweep with cursor, batches } hq g' s' h'

end Preserves

end Attempt

end Keyring
