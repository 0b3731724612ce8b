import Keyring.Proofs.Program.Preserves

namespace Keyring

/-- A run that goes on from a trace, seen as one whose world is the trace. -/
def Run.traced {σ S α : Type} (r : Run σ S α) (t : List Event) : Run σ (List Event) α :=
  ⟨r.ending, r.state, t ++ r.trace, r.trace⟩

namespace Attempt

variable {σ S α β : Type} {w : World S} {fuel : Nat} {Q : α → σ → List Event → Prop}
  {X : Halt → σ → List Event → Prop} {g : σ} {t : List Event}

/-- Whether an attempt that goes on from a trace meets `Q` with its result, or `X` with its halt,
whatever the world does. -/
def Traced (w : World S) (fuel : Nat) (a : Attempt σ α) (Q : α → σ → List Event → Prop)
    (X : Halt → σ → List Event → Prop) (g : σ) (t : List Event) : Prop :=
  ∀ s, Meets Q X ((a.run.run w fuel g s).traced t)

theorem Traced.mono {a : Attempt σ α} {Q' : α → σ → List Event → Prop}
    {X' : Halt → σ → List Event → Prop} (h : Traced w fuel a Q X g t)
    (hQ : ∀ x g t, Q x g t → Q' x g t) (hX : ∀ halt g t, X halt g t → X' halt g t) :
    Traced w fuel a Q' X' g t := by
  intro s
  have hs := h s
  unfold Meets at hs ⊢
  split at hs
  · exact hQ _ _ _ hs
  · exact hX _ _ _ hs
  · exact hX _ _ _ hs
  · exact hX _ _ _ hs

theorem traced_pure {x : α} (h : Q x g t) : Traced w fuel (pure x) Q X g t := by
  intro s
  show Q x g (t ++ [])
  rwa [List.append_nil]

theorem traced_throw {e : Failure} (h : X (.failed e) g t) :
    Traced w fuel (throw e : Attempt σ α) Q X g t := by
  intro s
  show X (.failed e) g (t ++ [])
  rwa [List.append_nil]

theorem traced_settle {r : Except Failure α}
    (h : match r with
      | .ok x => Q x g t
      | .error e => X (.failed e) g t) : Traced w fuel (settle r) Q X g t := by
  cases r with
  | ok x => exact traced_pure h
  | error e => exact traced_throw h

theorem traced_get {Q : σ → σ → List Event → Prop} (h : Q g g t) : Traced w fuel get Q X g t := by
  intro s
  show Q g g (t ++ [])
  rwa [List.append_nil]

theorem traced_set {Q : Unit → σ → List Event → Prop} {g' : σ} (h : Q () g' t) :
    Traced w fuel (set g') Q X g t := by
  intro s
  show Q () g' (t ++ [])
  rwa [List.append_nil]

theorem traced_after {a : Attempt σ α} {b : Attempt σ β} {f : Except Failure α → Attempt σ β}
    {Q : β → σ → List Event → Prop} (hrun : b.run = a.run.bind fun r => (f r).run)
    (h : Traced w fuel a (fun x => Traced w fuel (f (.ok x)) Q X) (fun
      | .failed e => Traced w fuel (f (.error e)) Q X
      | halt => X halt) g t) : Traced w fuel b Q X g t := by
  intro s
  have hs := h s
  have happ : ∀ r g' s' t', Meets Q X (((f r).run.run w fuel g' s').traced (t ++ t')) →
      Meets Q X ((((f r).run.run w fuel g' s').after t').traced t) := by
    intro r g' s' t' hf
    rw [Run.traced, List.append_assoc] at hf
    exact hf
  rw [hrun, Program.run_bind]
  revert hs
  rcases a.run.run w fuel g s with ⟨(_ | _) | _ | _, g', s', t'⟩
  · exact fun hs => happ _ g' s' t' (hs s')
  · exact fun hs => happ _ g' s' t' (hs s')
  · exact id
  · exact id

theorem traced_bind {a : Attempt σ α} {f : α → Attempt σ β} {Q : β → σ → List Event → Prop}
    (h : Traced w fuel a (fun x => Traced w fuel (f x) Q X) X g t) :
    Traced w fuel (a >>= f) Q X g t := by
  refine traced_after (f := fun
    | .ok x => f x
    | .error e => throw e) ?_ (h.mono (fun _ _ _ hx => hx) ?_)
  · rw [run_bind]
    congr 1
  · intro halt g t hx
    cases halt with
    | failed e => exact traced_throw hx
    | cut => exact hx
    | exhausted => exact hx

theorem traced_tryCatch {a : Attempt σ α} {f : Failure → Attempt σ α}
    (h : Traced w fuel a Q (fun
      | .failed e => Traced w fuel (f e) Q X
      | halt => X halt) g t) : Traced w fuel (tryCatch a f) Q X g t := by
  refine traced_after (f := fun
    | .ok x => pure x
    | .error e => f e) ?_ (h.mono (fun _ _ _ hx => traced_pure hx) ?_)
  · rw [run_tryCatch]
    congr 1
  · intro halt g t hx
    cases halt with
    | failed e => exact hx
    | cut => exact hx
    | exhausted => exact hx

theorem traced_outcome {a : Attempt σ α} {Q : Except Failure α → σ → List Event → Prop}
    (h : Traced w fuel a (fun x => Q (.ok x)) (fun
      | .failed e => Q (.error e)
      | halt => X halt) g t) : Traced w fuel (outcome a) Q X g t := by
  refine traced_after (f := pure) rfl (h.mono (fun _ _ _ hx => traced_pure hx) ?_)
  intro halt g t hx
  cases halt with
  | failed e => exact traced_pure hx
  | cut => exact hx
  | exhausted => exact hx

theorem traced_tellAll {Q : Unit → σ → List Event → Prop} {signals : List Signal}
    (h : Q () g (t ++ signals.map .told)) : Traced w fuel (tellAll signals) Q X g t := by
  intro s
  have hrun : (tellAll signals : Attempt σ Unit).run =
      (Program.tellAll signals).bind fun a => .done (.ok a) :=
    rfl
  rw [hrun, Program.run_bind, Program.run_tellAll]
  simpa [Run.traced, Run.after, Meets, Program.run] using h

theorem traced_request {q : Request} {Q : q.Answer → σ → List Event → Prop}
    (hok : ∀ x, Q x g (t ++ [.called q (.ok x)]))
    (herror : ∀ e, X (.failed e) g (t ++ [.called q (.error e)]))
    (hdropped : X .cut g (t ++ [.dropped q])) : Traced w fuel (request q) Q X g t := by
  intro s
  show Meets Q X ((Program.run w fuel (.ask q .done) g s).traced t)
  rw [Program.run]
  rcases w.answer q s with ⟨_ | _ | x, s'⟩
  · exact hdropped
  · exact herror _
  · exact hok x

/-- A fetch loop tells of every batch, and what holds before a batch and after it holds behind the
loop. -/
theorem traced_gather {I : List Event → Prop} {sweep : Sweep}
    (hbatch : ∀ (sweep : Sweep) batch t, I t →
      I (t ++ .called sweep.request (.ok batch) :: (sweep.signals batch).map .told))
    (herror : ∀ (sweep : Sweep) e t, I t → I (t ++ [.called sweep.request (.error e)]))
    (hdropped : ∀ (sweep : Sweep) t, I t → I (t ++ [.dropped sweep.request])) (h : I t) :
    Traced w fuel (gather sweep) (fun _ g' t => g' = g ∧ I t) (fun _ g' t => g' = g ∧ I t) g t := by
  have hloop : ∀ (fuel : Nat) (sweep : Sweep) t s, I t → I (t ++ (sweep.run w fuel s).2.2) := by
    intro fuel
    induction fuel with
    | zero =>
        intro sweep t s ht
        simpa [Sweep.run] using ht
    | succ fuel ih =>
        intro sweep t s ht
        rw [Sweep.run]
        rcases w.answer sweep.request s with ⟨_ | _ | batch, s'⟩
        · exact hdropped sweep t ht
        · exact herror sweep _ t ht
        · have hnext := hbatch sweep batch t ht
          simp only
          cases sweep.take batch with
          | inr keys => exact hnext
          | inl sweep' =>
              simp only
              rw [← List.append_assoc]
              exact ih sweep' _ s' hnext
  intro s
  have hs := hloop fuel sweep t s h
  show Meets _ _ ((Program.run w fuel (.gather sweep .done) g s).traced t)
  rw [Program.run]
  revert hs
  rcases sweep.run w fuel s with ⟨(_ | _) | _ | _, s', t'⟩
  all_goals
    intro hs
    simpa [Run.traced, Run.after, Meets, Program.run] using hs

theorem traced_runWithin {limit : Duration} {body expired : Attempt σ α}
    (h : Traced w fuel body Q (fun
      | .cut => Traced w fuel expired Q X
      | halt => X halt) g t) (s : S) :
    Meets Q X ((Program.runWithin w fuel limit body.run expired.run g s).traced t) := by
  have hs := h (w.startTimer limit s)
  unfold Program.runWithin
  revert hs
  rcases body.run.run w fuel g (w.startTimer limit s) with ⟨(_ | _) | _ | _, g', s', t'⟩
  · exact id
  · exact id
  · intro hs
    have hf : Meets Q X ((expired.run.run w fuel g' (w.stopTimer s')).traced (t ++ t')) := hs _
    rw [Run.traced, List.append_assoc] at hf
    exact hf
  · exact id

/-- Whether an attempt that starts within an invariant of the state and the trace ends within it,
with a result or without. -/
def Maintains (w : World S) (fuel : Nat) (I : σ → List Event → Prop) (a : Attempt σ α) : Prop :=
  ∀ g t, I g t → Traced w fuel a (fun _ => I) (fun _ => I) g t

namespace Maintains

variable {I : σ → List Event → Prop}

theorem pure (x : α) : Maintains w fuel I (Pure.pure x) :=
  fun _ _ h => traced_pure h

theorem throw (e : Failure) : Maintains w fuel I (MonadExcept.throw e : Attempt σ α) :=
  fun _ _ h => traced_throw h

theorem settle (r : Except Failure α) : Maintains w fuel I (Attempt.settle r) := by
  intro g t h
  cases r with
  | ok x => exact traced_pure h
  | error e => exact traced_throw h

theorem bind {a : Attempt σ α} {f : α → Attempt σ β} (ha : Maintains w fuel I a)
    (hf : ∀ x, Maintains w fuel I (f x)) : Maintains w fuel I (a >>= f) :=
  fun g t h => traced_bind ((ha g t h).mono (fun x g' t' hx => hf x g' t' hx) fun _ _ _ hx => hx)

theorem get_bind {f : σ → Attempt σ β} (hf : ∀ g, Maintains w fuel I (f g)) :
    Maintains w fuel I (Attempt.get >>= f) :=
  fun g t h => traced_bind (traced_get (hf g g t h))

theorem modify {f : σ → σ} (hf : ∀ g t, I g t → I (f g) t) :
    Maintains w fuel I (do let g ← Attempt.get; Attempt.set (f g)) :=
  fun g t h => traced_bind (traced_get (traced_set (hf g t h)))

theorem tellAll {signals : List Signal} (hI : ∀ g t, I g t → I g (t ++ signals.map .told)) :
    Maintains w fuel I (Attempt.tellAll signals) :=
  fun g t h => traced_tellAll (hI g t h)

theorem request {q : Request} (hI : ∀ g t r, I g t → I g (t ++ [.called q r]))
    (hdropped : ∀ g t, I g t → I g (t ++ [.dropped q])) : Maintains w fuel I (Attempt.request q) :=
  fun g t h => traced_request (fun _ => hI g t _ h) (fun _ => hI g t _ h) (hdropped g t h)

theorem mapM {f : α → Attempt σ β} (hf : ∀ x, Maintains w fuel I (f x)) (xs : List α) :
    Maintains w fuel I (xs.mapM f) := by
  induction xs with
  | nil => exact pure _
  | cons x rest ih =>
      rw [List.mapM_cons]
      exact (hf x).bind fun _ => ih.bind fun _ => pure _

theorem gather {sweep : Sweep}
    (hbatch : ∀ (sweep : Sweep) batch g t, I g t →
      I g (t ++ .called sweep.request (.ok batch) :: (sweep.signals batch).map .told))
    (herror : ∀ (sweep : Sweep) e g t, I g t → I g (t ++ [.called sweep.request (.error e)]))
    (hdropped : ∀ (sweep : Sweep) g t, I g t → I g (t ++ [.dropped sweep.request])) :
    Maintains w fuel I (Attempt.gather sweep) := by
  intro g t h
  refine (traced_gather (I := I g) (fun sweep batch t => hbatch sweep batch g t)
    (fun sweep e t => herror sweep e g t) (fun sweep t => hdropped sweep g t) h).mono ?_ ?_
  · rintro _ _ t ⟨rfl, ht⟩
    exact ht
  · rintro _ _ t ⟨rfl, ht⟩
    exact ht

end Maintains

end Attempt

end Keyring
