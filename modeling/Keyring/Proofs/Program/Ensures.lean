import Keyring.Program.Run

/-!
What is certain of a run of an attempt: one condition for its result, another for every way in
which it ends without one. The rules take these conditions backwards through an attempt, one for
each way to build attempts.
-/

namespace Keyring

namespace Program

variable {σ S α β γ : Type}

theorem bind_done (p : Program σ α) : p.bind .done = p := by
  induction p with
  | done a => rfl
  | ask q next ih => exact congrArg (ask q) (funext ih)
  | gather s next ih => exact congrArg (gather s) (funext ih)
  | tell s next ih => exact congrArg (tell s) ih
  | read next ih => exact congrArg read (funext ih)
  | write s next ih => exact congrArg (write s) ih

theorem bind_assoc (p : Program σ α) (f : α → Program σ β) (g : β → Program σ γ) :
    (p.bind f).bind g = p.bind fun a => (f a).bind g := by
  induction p with
  | done a => rfl
  | ask q next ih => exact congrArg (ask q) (funext ih)
  | gather s next ih => exact congrArg (gather s) (funext ih)
  | tell s next ih => exact congrArg (tell s) ih
  | read next ih => exact congrArg read (funext ih)
  | write s next ih => exact congrArg (write s) ih

instance : LawfulMonad (Program σ) :=
  LawfulMonad.mk' (Program σ) bind_done (fun _ _ => rfl) bind_assoc

variable (w : World S) (fuel : Nat)

theorem run_bind (p : Program σ α) (f : α → Program σ β) (state : σ) (world : S) :
    (p.bind f).run w fuel state world =
      match p.run w fuel state world with
      | ⟨.finished a, state, world, trace⟩ => ((f a).run w fuel state world).after trace
      | ⟨.cut, state, world, trace⟩ => ⟨.cut, state, world, trace⟩
      | ⟨.exhausted, state, world, trace⟩ => ⟨.exhausted, state, world, trace⟩ := by
  induction p generalizing state world with
  | done a => rfl
  | ask q next ih =>
      simp only [bind, run]
      split
      · rfl
      · rw [ih]
        rcases (next _).run w fuel state _ with ⟨_ | _ | _, _, _, _⟩ <;> simp [Run.after]
  | gather s next ih =>
      simp only [bind, run]
      split
      · rfl
      · rfl
      · rw [ih]
        rcases (next _).run w fuel state _ with ⟨_ | _ | _, _, _, _⟩ <;> simp [Run.after]
  | tell s next ih =>
      simp only [bind, run]
      rw [ih]
      rcases next.run w fuel state world with ⟨_ | _ | _, _, _, _⟩ <;> simp [Run.after]
  | read next ih => exact ih state state world
  | write state' next ih => exact ih state' world

theorem run_tellAll (signals : List Signal) (state : σ) (world : S) :
    (tellAll signals).run w fuel state world =
      ⟨.finished (), state, world, signals.map .told⟩ := by
  induction signals with
  | nil => rfl
  | cons s rest ih =>
      rw [tellAll, run, ih]
      rfl

end Program

namespace Sweep

variable {sweep : Sweep} {batch : List Key}

theorem take_of_final (h : batch = [] ∨ batch.length ≤ sweep.threshold.toNat) :
    sweep.take batch = .inr (sweep.gathered ++ batch) := by
  unfold take
  split
  · rename_i hnone
    rw [List.getLast?_eq_none_iff.mp hnone, List.append_nil]
  · rename_i last hlast
    have hshort : batch.length ≤ sweep.threshold.toNat :=
      h.resolve_left (List.ne_nil_of_mem (List.mem_of_getLast? hlast))
    rw [hasMore, decide_eq_false (Nat.not_lt.mpr hshort)]
    rfl

theorem take_of_more {last : Key} (hmore : sweep.threshold.toNat < batch.length)
    (hlast : batch.getLast? = some last) :
    sweep.take batch =
      .inl { sweep with cursor := last.cursor, batches := batch :: sweep.batches } := by
  simp only [take, hlast, hasMore, hmore, decide_true, if_true]

theorem take_cases (sweep : Sweep) (batch : List Key) :
    ((batch = [] ∨ batch.length ≤ sweep.threshold.toNat) ∧
        sweep.take batch = .inr (sweep.gathered ++ batch)) ∨
      ∃ last, sweep.threshold.toNat < batch.length ∧ batch.getLast? = some last ∧
        sweep.take batch =
          .inl { sweep with cursor := last.cursor, batches := batch :: sweep.batches } := by
  by_cases hfinal : batch = [] ∨ batch.length ≤ sweep.threshold.toNat
  · exact .inl ⟨hfinal, take_of_final hfinal⟩
  · obtain ⟨hne, hmore⟩ := not_or.mp hfinal
    have hlast := List.getLast?_eq_some_getLast hne
    have hmore := Nat.not_le.mp hmore
    exact .inr ⟨_, hmore, hlast, take_of_more hmore hlast⟩

end Sweep

/-- How a run of an attempt ends that gives no result. -/
inductive Halt where
  | failed (e : Failure)
  | cut
  | exhausted

def Halt.ending {α : Type} : Halt → Ending (Except Failure α)
  | failed e => .finished (.error e)
  | cut => .cut
  | exhausted => .exhausted

namespace Attempt

variable {σ S α β : Type} {w : World S} {fuel : Nat}

theorem run_bind (a : Attempt σ α) (f : α → Attempt σ β) :
    (a >>= f).run = a.run.bind fun
      | .ok x => (f x).run
      | .error e => .done (.error e) := by
  show Program.bind a.run (ExceptT.bindCont f) = _
  congr 1
  funext r
  cases r <;> rfl

theorem run_tryCatch (a : Attempt σ α) (f : Failure → Attempt σ α) :
    (tryCatch a f).run = a.run.bind fun
      | .ok x => .done (.ok x)
      | .error e => (f e).run := by
  show Program.bind a.run _ = _
  congr 1
  funext r
  cases r <;> rfl

/-- Whether a run meets `Q` with its result, or `X` with its halt. -/
def Meets (Q : α → σ → S → Prop) (X : Halt → σ → S → Prop) (r : Run σ S (Except Failure α)) :
    Prop :=
  match r.ending with
  | .finished (.ok a) => Q a r.state r.world
  | .finished (.error e) => X (.failed e) r.state r.world
  | .cut => X .cut r.state r.world
  | .exhausted => X .exhausted r.state r.world

/-- Whether an attempt that starts in these states meets `Q` with its result, or `X` with its
halt. -/
def Ensures (w : World S) (fuel : Nat) (a : Attempt σ α) (Q : α → σ → S → Prop)
    (X : Halt → σ → S → Prop) (state : σ) (world : S) : Prop :=
  Meets Q X (a.run.run w fuel state world)

variable {Q : α → σ → S → Prop} {X : Halt → σ → S → Prop} {state : σ} {world : S}

@[simp] theorem meets_after (trace : List Event) (r : Run σ S (Except Failure α)) :
    Meets Q X (r.after trace) ↔ Meets Q X r :=
  Iff.rfl

theorem meets_ending {R : Ending (Except Failure α) → σ → S → Prop}
    {r : Run σ S (Except Failure α)} :
    Meets (fun x => R (.finished (.ok x))) (fun halt => R halt.ending) r ↔
      R r.ending r.state r.world := by
  rcases r with ⟨(_ | _) | _ | _, _, _, _⟩ <;> rfl

theorem Ensures.mono {a : Attempt σ α} {Q' : α → σ → S → Prop} {X' : Halt → σ → S → Prop}
    (h : Ensures w fuel a Q X state world) (hQ : ∀ x g s, Q x g s → Q' x g s)
    (hX : ∀ e g s, X e g s → X' e g s) : Ensures w fuel a Q' X' state world := by
  unfold Ensures Meets at h ⊢
  split at h
  · exact hQ _ _ _ h
  · exact hX _ _ _ h
  · exact hX _ _ _ h
  · exact hX _ _ _ h

/-- There is only one run. -/
theorem Ensures.and {a : Attempt σ α} {Q' : α → σ → S → Prop} {X' : Halt → σ → S → Prop}
    (h : Ensures w fuel a Q X state world) (h' : Ensures w fuel a Q' X' state world) :
    Ensures w fuel a (fun x g s => Q x g s ∧ Q' x g s) (fun halt g s => X halt g s ∧ X' halt g s)
      state world := by
  unfold Ensures Meets at h h' ⊢
  split at h
  all_goals
    rename_i hending
    simp only [hending] at h' ⊢
    exact ⟨h, h'⟩

theorem ensures_true (a : Attempt σ α) :
    Ensures w fuel a (fun _ _ _ => True) (fun _ _ _ => True) state world :=
  meets_ending (R := fun _ _ _ => True).mpr trivial

theorem Meets.exists_run {r : Run σ S (Except Failure α)} (h : Meets Q (fun _ _ _ => False) r) :
    ∃ x g s trace, r = ⟨.finished (.ok x), g, s, trace⟩ ∧ Q x g s := by
  obtain ⟨ending, g, s, trace⟩ := r
  match ending, h with
  | .finished (.ok x), h => exact ⟨x, g, s, trace, rfl, h⟩

theorem Ensures.exists_run {a : Attempt σ α}
    (h : Ensures w fuel a Q (fun _ _ _ => False) state world) :
    ∃ x g s trace, a.run.run w fuel state world = ⟨.finished (.ok x), g, s, trace⟩ ∧ Q x g s :=
  Meets.exists_run h

theorem Ensures.exists_failure {a : Attempt σ α} {P : σ → S → Prop}
    (h : Ensures w fuel a (fun _ _ _ => False)
      (fun halt g s => (∃ e, halt = .failed e) ∧ P g s) state world) :
    ∃ e g s trace, a.run.run w fuel state world = ⟨.finished (.error e), g, s, trace⟩ ∧ P g s := by
  unfold Ensures Meets at h
  rcases hr : a.run.run w fuel state world with ⟨ending, g, s, trace⟩
  rw [hr] at h
  match ending, h with
  | .finished (.error e), h => exact ⟨e, g, s, trace, rfl, h.2⟩
  | .cut, ⟨⟨e, he⟩, _⟩ => exact nomatch he
  | .exhausted, ⟨⟨e, he⟩, _⟩ => exact nomatch he

theorem Ensures.of_run {a : Attempt σ α} (h : Ensures w fuel a Q X state world)
    {r : Run σ S (Except Failure α)} (hr : a.run.run w fuel state world = r) : Meets Q X r :=
  hr ▸ h

@[simp] theorem ensures_pure (x : α) :
    Ensures w fuel (pure x) Q X state world ↔ Q x state world :=
  Iff.rfl

@[simp] theorem ensures_throw (e : Failure) :
    Ensures w fuel (throw e) Q X state world ↔ X (.failed e) state world :=
  Iff.rfl

@[simp] theorem ensures_settle (r : Except Failure α) :
    Ensures w fuel (settle r) Q X state world ↔
      match r with
      | .ok x => Q x state world
      | .error e => X (.failed e) state world := by
  cases r <;> rfl

@[simp] theorem ensures_get {Q : σ → σ → S → Prop} :
    Ensures w fuel get Q X state world ↔ Q state state world :=
  Iff.rfl

@[simp] theorem ensures_set {Q : Unit → σ → S → Prop} (state' : σ) :
    Ensures w fuel (set state') Q X state world ↔ Q () state' world :=
  Iff.rfl

@[simp] theorem ensures_bind {a : Attempt σ α} {f : α → Attempt σ β} {Q : β → σ → S → Prop} :
    Ensures w fuel (a >>= f) Q X state world ↔
      Ensures w fuel a (fun x => Ensures w fuel (f x) Q X) X state world := by
  unfold Ensures
  rw [run_bind, Program.run_bind]
  rcases a.run.run w fuel state world with ⟨(_ | _) | _ | _, _, _, _⟩ <;> rfl

@[simp] theorem ensures_tellAll {Q : Unit → σ → S → Prop} (signals : List Signal) :
    Ensures w fuel (tellAll signals) Q X state world ↔ Q () state world := by
  have hrun : (tellAll signals : Attempt σ Unit).run =
      (Program.tellAll signals).bind fun a => .done (.ok a) :=
    rfl
  rw [Ensures, hrun, Program.run_bind, Program.run_tellAll]
  rfl

@[simp] theorem ensures_notice {Q : Unit → σ → S → Prop} (n : Log.Notice) :
    Ensures w fuel (notice n) Q X state world ↔ Q () state world :=
  Iff.rfl

@[simp] theorem ensures_metric {Q : Unit → σ → S → Prop} (m : Metric) :
    Ensures w fuel (metric m) Q X state world ↔ Q () state world :=
  Iff.rfl

@[simp] theorem ensures_tryCatch {a : Attempt σ α} {f : Failure → Attempt σ α} :
    Ensures w fuel (tryCatch a f) Q X state world ↔
      Ensures w fuel a Q (fun
        | .failed e => Ensures w fuel (f e) Q X
        | halt => X halt) state world := by
  unfold Ensures
  rw [run_tryCatch, Program.run_bind]
  rcases a.run.run w fuel state world with ⟨(_ | _) | _ | _, _, _, _⟩ <;> rfl

@[simp] theorem ensures_outcome {a : Attempt σ α} {Q : Except Failure α → σ → S → Prop} :
    Ensures w fuel (outcome a) Q X state world ↔
      Ensures w fuel a (fun x => Q (.ok x)) (fun
        | .failed e => Q (.error e)
        | halt => X halt) state world := by
  have hrun : (outcome a).run = a.run.bind fun r => .done (.ok r) := rfl
  unfold Ensures
  rw [hrun, Program.run_bind]
  rcases a.run.run w fuel state world with ⟨(_ | _) | _ | _, _, _, _⟩ <;> rfl

@[simp] theorem ensures_mapM_nil {f : α → Attempt σ β} {Q : List β → σ → S → Prop} :
    Ensures w fuel ([].mapM f) Q X state world ↔ Q [] state world :=
  Iff.rfl

@[simp] theorem ensures_mapM_cons {f : α → Attempt σ β} (a : α) (rest : List α)
    {Q : List β → σ → S → Prop} :
    Ensures w fuel ((a :: rest).mapM f) Q X state world ↔
      Ensures w fuel (f a) (fun b => Ensures w fuel (rest.mapM f) (fun bs => Q (b :: bs)) X) X
        state world := by
  have hrest : (fun b => Ensures w fuel (rest.mapM f >>= fun bs => pure (b :: bs)) Q X) =
      fun b => Ensures w fuel (rest.mapM f) (fun bs => Q (b :: bs)) X := by
    funext b state world
    exact propext ensures_bind
  rw [List.mapM_cons, ensures_bind, hrest]

theorem meets_runWithin (limit : Duration) (body expired : Attempt σ α) :
    Meets Q X (Program.runWithin w fuel limit body.run expired.run state world) ↔
      Ensures w fuel body (fun x g s => Q x g (w.stopTimer s)) (fun
        | .cut, g, s => Ensures w fuel expired Q X g (w.stopTimer s)
        | halt, g, s => X halt g (w.stopTimer s)) state (w.startTimer limit world) := by
  unfold Ensures Program.runWithin
  rcases body.run.run w fuel state (w.startTimer limit world) with ⟨(_ | _) | _ | _, _, _, _⟩
  all_goals rfl

theorem ensures_request (q : Request) {Q : q.Answer → σ → S → Prop} :
    Ensures w fuel (request q) Q X state world ↔
      match w.answer q world with
      | (some (.ok x), world) => Q x state world
      | (some (.error e), world) => X (.failed e) state world
      | (none, world) => X .cut state world := by
  unfold Ensures request
  show Meets Q X (Program.run w fuel (.ask q .done) state world) ↔ _
  rw [Program.run]
  rcases w.answer q world with ⟨_ | _ | _, _⟩ <;> rfl

theorem ensures_gather (sweep : Sweep) {Q : List Key → σ → S → Prop} :
    Ensures w fuel (gather sweep) Q X state world ↔
      match sweep.run w fuel world with
      | (.finished (.ok keys), world, _) => Q keys state world
      | (.finished (.error e), world, _) => X (.failed e) state world
      | (.cut, world, _) => X .cut state world
      | (.exhausted, world, _) => X .exhausted state world := by
  show Meets Q X (Program.run w fuel (.gather sweep .done) state world) ↔ _
  rw [Program.run]
  rcases sweep.run w fuel world with ⟨(_ | _) | _ | _, _, _⟩ <;> rfl

theorem ensures_gather_succ (sweep : Sweep) {Q : List Key → σ → S → Prop} :
    Ensures w (fuel + 1) (gather sweep) Q X state world ↔
      Ensures w fuel (request sweep.request) (fun batch state world =>
        match sweep.take batch with
        | .inl sweep => Ensures w fuel (gather sweep) Q X state world
        | .inr keys => Q keys state world) X state world := by
  rw [ensures_gather, Sweep.run, ensures_request]
  rcases w.answer sweep.request world with ⟨_ | _ | batch, world⟩
  · rfl
  · rfl
  · simp only
    cases sweep.take batch with
    | inl sweep =>
        simp only [ensures_gather]
        rcases sweep.run w fuel world with ⟨(_ | _) | _ | _, _, _⟩ <;> rfl
    | inr keys => rfl

end Attempt

end Keyring
