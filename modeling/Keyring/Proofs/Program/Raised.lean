import Keyring.Proofs.Program.Traced

/-!
Failures that an attempt passes on but does not raise. A run that ends with such a failure has had
it as an answer from its world.
-/

namespace Keyring.Attempt

variable {σ S α β : Type} {w : World S} {fuel : Nat} {e : Failure} {g : σ}

/-- Whether some request in a trace was answered with a failure. -/
def Answered (e : Failure) (t : List Event) : Prop :=
  ∃ q, .called q (.error e) ∈ t

/-- Whether an attempt ends with a failure only if some request was answered with it. -/
def PassesOn (w : World S) (fuel : Nat) (e : Failure) (a : Attempt σ α) (g : σ) : Prop :=
  ∀ t, Traced w fuel a (fun _ _ _ => True) (fun halt _ t => halt = .failed e → Answered e t) g t

namespace PassesOn

theorem pure (x : α) : PassesOn w fuel e (Pure.pure x) g :=
  fun _ => traced_pure trivial

theorem settle {r : Except Failure α} (hr : r ≠ .error e) :
    PassesOn w fuel e (Attempt.settle r) g := by
  intro t
  apply traced_settle
  cases r with
  | ok x => trivial
  | error e' =>
      rintro ⟨⟩
      exact absurd rfl hr

theorem bind {a : Attempt σ α} {f : α → Attempt σ β} (ha : PassesOn w fuel e a g)
    (hf : ∀ x g', PassesOn w fuel e (f x) g') : PassesOn w fuel e (a >>= f) g :=
  fun t => traced_bind ((ha t).mono (fun x g' t' _ => hf x g' t') fun _ _ _ hx => hx)

theorem get_bind {f : σ → Attempt σ β} (hf : PassesOn w fuel e (f g) g) :
    PassesOn w fuel e (Attempt.get >>= f) g :=
  fun t => traced_bind (traced_get (hf t))

theorem tellAll (signals : List Signal) : PassesOn w fuel e (Attempt.tellAll signals) g :=
  fun _ => traced_tellAll trivial

theorem request (q : Request) : PassesOn w fuel e (Attempt.request q) g := by
  refine fun t => traced_request (fun _ => trivial) (fun e' he => ?_)
    fun h => Halt.noConfusion h
  cases he
  exact ⟨q, List.mem_append_right t (List.mem_singleton_self _)⟩

theorem outcome {a : Attempt σ α} (ha : PassesOn w fuel e a g) :
    PassesOn w fuel e (Attempt.outcome a) g := by
  refine fun t => traced_outcome ((ha t).mono (fun _ _ _ _ => trivial) ?_)
  rintro (e' | _ | _) g' t' hx
  · trivial
  · exact hx
  · exact hx

theorem mapM {f : α → Attempt σ β} (hf : ∀ x g', PassesOn w fuel e (f x) g') (xs : List α)
    (g : σ) : PassesOn w fuel e (xs.mapM f) g := by
  induction xs generalizing g with
  | nil => exact pure _
  | cons x rest ih =>
      rw [List.mapM_cons]
      exact (hf x g).bind fun _ g' => (ih g').bind fun _ _ => pure _

theorem answered {a : Attempt σ α} (h : PassesOn w fuel e a g) {s : S}
    (hend : (a.run.run w fuel g s).ending = .finished (.error e)) :
    Answered e (a.run.run w fuel g s).trace := by
  have hs := h [] s
  revert hs hend
  rcases a.run.run w fuel g s with ⟨_, g', s', t'⟩
  rintro ⟨⟩ hs
  exact hs rfl

end PassesOn

end Keyring.Attempt

namespace Keyring

variable {σ S α : Type} {w : World S} {q : Request} {r : q.Reply}

/-- Whether a world never answers with a failure. -/
def World.Never (w : World S) (e : Failure) : Prop :=
  ∀ q s, (w.answer q s).1 ≠ some (.error e)

theorem Sweep.exists_answer {fuel : Nat} {sweep : Sweep} {s : S}
    (hmem : .called q r ∈ (sweep.run w fuel s).2.2) : ∃ s', (w.answer q s').1 = some r := by
  induction fuel generalizing sweep s with
  | zero => exact absurd hmem List.not_mem_nil
  | succ fuel ih =>
      rw [run] at hmem
      rcases hanswer : w.answer sweep.request s with ⟨_ | _ | batch, s'⟩ <;> rw [hanswer] at hmem
      · simp at hmem
      · cases List.mem_singleton.mp hmem
        exact ⟨s, congrArg Prod.fst hanswer⟩
      · have hfirst : .called q r ∈ .called sweep.request (.ok batch) ::
            (sweep.signals batch).map Event.told → ∃ s', (w.answer q s').1 = some r := by
          intro hmem
          rcases List.mem_cons.mp hmem with heq | htold
          · cases heq
            exact ⟨s, congrArg Prod.fst hanswer⟩
          · simp at htold
        dsimp only at hmem
        cases htake : sweep.take batch with
        | inr keys =>
            rw [htake] at hmem
            exact hfirst hmem
        | inl sweep' =>
            rw [htake] at hmem
            exact (List.mem_append.mp hmem).elim hfirst ih

theorem Program.exists_answer {fuel : Nat} {p : Program σ α} {state : σ} {s : S}
    (hmem : .called q r ∈ (p.run w fuel state s).trace) : ∃ s', (w.answer q s').1 = some r := by
  induction p generalizing state s with
  | done a => exact absurd hmem List.not_mem_nil
  | ask q' next ih =>
      rw [run] at hmem
      rcases hanswer : w.answer q' s with ⟨_ | r', s'⟩ <;> rw [hanswer] at hmem
      · simp at hmem
      · rcases List.mem_cons.mp hmem with heq | hlater
        · cases heq
          exact ⟨s, congrArg Prod.fst hanswer⟩
        · exact ih r' hlater
  | gather sweep next ih =>
      rw [run] at hmem
      rcases hrun : sweep.run w fuel s with ⟨r' | _ | _, s', events⟩ <;> rw [hrun] at hmem
      · rcases List.mem_append.mp hmem with hloop | hlater
        · exact Sweep.exists_answer (by rwa [hrun])
        · exact ih r' hlater
      · exact Sweep.exists_answer (by rwa [hrun])
      · exact Sweep.exists_answer (by rwa [hrun])
  | tell signal next ih =>
      rcases List.mem_cons.mp hmem with heq | hlater
      · exact Event.noConfusion heq
      · exact ih hlater
  | read next ih => exact ih state hmem
  | write state' next ih => exact ih hmem

theorem Attempt.PassesOn.ending_ne {fuel : Nat} {e : Failure} {a : Attempt σ α} {g : σ}
    (h : PassesOn w fuel e a g) (hnever : w.Never e) (s : S) :
    (a.run.run w fuel g s).ending ≠ .finished (.error e) := by
  intro hend
  obtain ⟨q, hmem⟩ := h.answered hend
  obtain ⟨s', hanswer⟩ := Program.exists_answer hmem
  exact hnever q s' hanswer

end Keyring
