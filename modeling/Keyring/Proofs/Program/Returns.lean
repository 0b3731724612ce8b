import Keyring.Proofs.Program.Preserves
import Keyring.Proofs.Program.Recorded

namespace Keyring.Attempt

variable {σ S α β γ δ : Type} {w : World S} {fuel : Nat} {g g' g₁ : σ} {s s' s₁ : S}

/-- Whether an attempt that starts in these states gives a result and leaves those states. -/
def Returns (w : World S) (fuel : Nat) (a : Attempt σ α) (g : σ) (s : S) (x : α) (g' : σ)
    (s' : S) : Prop :=
  ∃ trace, a.run.run w fuel g s = ⟨.finished (.ok x), g', s', trace⟩

theorem Ensures.of_returns {a : Attempt σ α} {Q : α → σ → S → Prop} {X : Halt → σ → S → Prop}
    {x : α} (h : Ensures w fuel a Q X g s) (ha : Returns w fuel a g s x g' s') : Q x g' s' := by
  obtain ⟨trace, hrun⟩ := ha
  exact h.of_run hrun

theorem ensures_iff_returns {a : Attempt σ α} {Q : α → σ → S → Prop} :
    Ensures w fuel a Q (fun _ _ _ => False) g s ↔
      ∃ x g' s', Returns w fuel a g s x g' s' ∧ Q x g' s' := by
  constructor
  · intro h
    obtain ⟨x, g', s', trace, hrun, hQ⟩ := h.exists_run
    exact ⟨x, g', s', ⟨trace, hrun⟩, hQ⟩
  · rintro ⟨x, g', s', ⟨trace, hrun⟩, hQ⟩
    rw [Ensures, hrun]
    exact hQ

theorem returns_iff_ensures {a : Attempt σ α} {x : α} :
    Returns w fuel a g s x g' s' ↔
      Ensures w fuel a (fun y g₁ s₁ => y = x ∧ g₁ = g' ∧ s₁ = s') (fun _ _ _ => False) g s := by
  rw [ensures_iff_returns]
  constructor
  · exact fun h => ⟨x, g', s', h, rfl, rfl, rfl⟩
  · rintro ⟨_, _, _, h, rfl, rfl, rfl⟩
    exact h

section Returns

@[simp] theorem returns_pure {x y : α} :
    Returns w fuel (pure x) g s y g' s' ↔ x = y ∧ g = g' ∧ s = s' := by
  rw [returns_iff_ensures, ensures_pure]

@[simp] theorem returns_throw {e : Failure} {x : α} :
    ¬ Returns w fuel (throw e) g s x g' s' := by
  rw [returns_iff_ensures, ensures_throw]
  exact id

@[simp] theorem returns_bind {a : Attempt σ α} {f : α → Attempt σ β} {y : β} :
    Returns w fuel (a >>= f) g s y g' s' ↔
      ∃ x g₁ s₁, Returns w fuel a g s x g₁ s₁ ∧ Returns w fuel (f x) g₁ s₁ y g' s' := by
  rw [returns_iff_ensures, ensures_bind, ensures_iff_returns]
  simp only [← returns_iff_ensures]

@[simp] theorem returns_get {y : σ} :
    Returns w fuel get g s y g' s' ↔ g = y ∧ g = g' ∧ s = s' := by
  rw [returns_iff_ensures, ensures_get]

@[simp] theorem returns_set {y : Unit} :
    Returns w fuel (set g₁) g s y g' s' ↔ g₁ = g' ∧ s = s' := by
  rw [returns_iff_ensures, ensures_set]
  exact and_iff_right rfl

@[simp] theorem returns_settle {r : Except Failure α} {x : α} :
    Returns w fuel (settle r) g s x g' s' ↔ r = .ok x ∧ g = g' ∧ s = s' := by
  rw [returns_iff_ensures, ensures_settle]
  cases r with
  | ok y => simp
  | error e => simp

@[simp] theorem returns_tellAll {signals : List Signal} {y : Unit} :
    Returns w fuel (tellAll signals) g s y g' s' ↔ g = g' ∧ s = s' := by
  rw [returns_iff_ensures, ensures_tellAll]
  exact and_iff_right rfl

@[simp] theorem returns_notice {n : Log.Notice} {y : Unit} :
    Returns w fuel (notice n) g s y g' s' ↔ g = g' ∧ s = s' :=
  returns_tellAll

@[simp] theorem returns_metric {m : Metric} {y : Unit} :
    Returns w fuel (metric m) g s y g' s' ↔ g = g' ∧ s = s' :=
  returns_tellAll

theorem returns_request {q : Request} {x : q.Answer} :
    Returns w fuel (request q) g s x g' s' ↔ w.answer q s = (some (.ok x), s') ∧ g = g' := by
  rw [returns_iff_ensures, ensures_request]
  rcases w.answer q s with ⟨_ | _ | y, s₁⟩
  · simp
  · simp
  · simp [and_comm, and_assoc]

theorem returns_outcome_request {q : Request} {r : q.Reply} :
    Returns w fuel (outcome (request q)) g s r g' s' ↔ w.answer q s = (some r, s') ∧ g = g' := by
  rw [returns_iff_ensures, ensures_outcome, ensures_request]
  rcases w.answer q s with ⟨_ | _ | y, s₁⟩
  · simp
  · simp [and_comm, and_assoc]
  · simp [and_comm, and_assoc]

/-- A handler that fails again does not help an attempt to a result. -/
theorem returns_tryCatch {a : Attempt σ α} {f : Failure → Attempt σ α} {x : α}
    (hf : ∀ e g s, ¬ Returns w fuel (f e) g s x g' s') :
    Returns w fuel (tryCatch a f) g s x g' s' ↔ Returns w fuel a g s x g' s' := by
  rw [returns_iff_ensures, returns_iff_ensures, ensures_tryCatch]
  constructor
  · intro h
    refine h.mono (fun _ _ _ h => h) fun halt g₁ s₁ h => ?_
    cases halt with
    | failed e => exact hf e g₁ s₁ (returns_iff_ensures.mpr h)
    | cut => exact h
    | exhausted => exact h
  · exact fun h => h.mono (fun _ _ _ h => h) fun _ _ _ h => h.elim

theorem returns_gather_zero {sweep : Sweep} {keys : List Key} :
    ¬ Returns w 0 (gather sweep) g s keys g' s' := by
  rw [returns_iff_ensures, ensures_gather]
  exact id

theorem returns_gather_succ {sweep : Sweep} {keys : List Key} :
    Returns w (fuel + 1) (gather sweep) g s keys g' s' ↔
      ∃ batch s₁, w.answer sweep.request s = (some (.ok batch), s₁) ∧
        ((∃ sweep', sweep.take batch = .inl sweep' ∧
            Returns w fuel (gather sweep') g s₁ keys g' s') ∨
          (sweep.take batch = .inr keys ∧ g = g' ∧ s₁ = s')) := by
  rw [returns_iff_ensures, ensures_gather_succ, ensures_iff_returns]
  constructor
  · rintro ⟨batch, _, s₁, hrequest, h⟩
    obtain ⟨hanswer, rfl⟩ := returns_request.mp hrequest
    refine ⟨batch, s₁, hanswer, ?_⟩
    cases htake : sweep.take batch with
    | inl sweep' =>
        rw [htake] at h
        exact .inl ⟨sweep', rfl, returns_iff_ensures.mpr h⟩
    | inr all =>
        rw [htake] at h
        obtain ⟨rfl, rfl, rfl⟩ := h
        exact .inr ⟨rfl, rfl, rfl⟩
  · rintro ⟨batch, s₁, hanswer, ⟨sweep', htake, h⟩ | ⟨htake, rfl, rfl⟩⟩
    · refine ⟨batch, g, s₁, returns_request.mpr ⟨hanswer, rfl⟩, ?_⟩
      rw [htake]
      exact returns_iff_ensures.mp h
    · refine ⟨batch, g, s₁, returns_request.mpr ⟨hanswer, rfl⟩, ?_⟩
      rw [htake]
      exact ⟨rfl, rfl, rfl⟩

end Returns

section Recorded

theorem Returns.of_recorded {a : Attempt σ α} {x : α} {calls : List Event}
    (h : Returns w.recorded fuel a g ([], s) x g' (calls, s')) :
    (a.run.run w fuel g s).ending = .finished (.ok x) ∧ (a.run.run w fuel g s).state = g' ∧
      (a.run.run w fuel g s).calls = calls := by
  obtain ⟨trace, hrun⟩ := h
  rw [Program.run_recorded, List.nil_append] at hrun
  obtain ⟨hending, hstate, hworld, -⟩ := Run.mk.inj hrun
  exact ⟨hending, hstate, (Prod.mk.inj hworld).1⟩

theorem returns_recorded_request {q : Request} {x : q.Answer} (before : List Event)
    (h : w.answer q s = (some (.ok x), s')) :
    Returns w.recorded fuel (request q) g (before, s) x g
      (before ++ [.called q (.ok x)], s') := by
  rw [returns_request, World.recorded_answer, h]
  exact ⟨rfl, rfl⟩

theorem returns_recorded_outcome {q : Request} {r : q.Reply} (before : List Event)
    (h : w.answer q s = (some r, s')) :
    Returns w.recorded fuel (outcome (request q)) g (before, s) r g
      (before ++ [.called q r], s') := by
  rw [returns_outcome_request, World.recorded_answer, h]
  exact ⟨rfl, rfl⟩

theorem exists_returns_mapM {f : α → Attempt σ β} {ready : S → Prop} (arg : γ → α)
    (result : γ → β) (call : γ → Event)
    (hf : ∀ a before s, ready s → ∃ c s', arg c = a ∧ ready s' ∧
      Returns w.recorded fuel (f a) g (before, s) (result c) g (before ++ [call c], s'))
    (as : List α) (before : List Event) (hs : ready s) :
    ∃ (cs : List γ) (s' : S), cs.map arg = as ∧ ready s' ∧
      Returns w.recorded fuel (as.mapM f) g (before, s) (cs.map result) g
        (before ++ cs.map call, s') := by
  induction as generalizing before s with
  | nil => exact ⟨[], s, rfl, hs, by simp⟩
  | cons a rest ih =>
      obtain ⟨c, s₁, rfl, hs₁, hfirst⟩ := hf a before s hs
      obtain ⟨cs, s', rfl, hs', hrest⟩ := ih (before ++ [call c]) hs₁
      refine ⟨c :: cs, s', rfl, hs', ?_⟩
      rw [List.mapM_cons, returns_bind]
      refine ⟨_, _, _, hfirst, ?_⟩
      rw [returns_bind]
      refine ⟨_, _, _, hrest, ?_⟩
      simp

end Recorded

/-- Whether, from related states, the second attempt gives a result whenever the first one does, with
the results and the states they leave related. -/
def Mirrored (w : World S) (fuel : Nat) (R : σ → S → σ → S → Prop) (V : α → β → Prop)
    (a : Attempt σ α) (b : Attempt σ β) : Prop :=
  ∀ ⦃g s g' s'⦄, R g s g' s' → ∀ ⦃x g₁ s₁⦄, Returns w fuel a g s x g₁ s₁ →
    ∃ y g₁' s₁', Returns w fuel b g' s' y g₁' s₁' ∧ V x y ∧ R g₁ s₁ g₁' s₁'

namespace Mirrored

variable {R : σ → S → σ → S → Prop} {V : α → β → Prop} {W : γ → δ → Prop}

theorem pure {x : α} {y : β} (h : V x y) : Mirrored w fuel R V (Pure.pure x) (Pure.pure y) := by
  intro g s g' s' hR x' g₁ s₁ hx
  obtain ⟨rfl, rfl, rfl⟩ := returns_pure.mp hx
  exact ⟨y, g', s', returns_pure.mpr ⟨rfl, rfl, rfl⟩, h, hR⟩

theorem bind {a : Attempt σ α} {b : Attempt σ β} {f : α → Attempt σ γ} {k : β → Attempt σ δ}
    (hab : Mirrored w fuel R V a b) (hfk : ∀ x y, V x y → Mirrored w fuel R W (f x) (k y)) :
    Mirrored w fuel R W (a >>= f) (b >>= k) := by
  intro g s g' s' hR z g₂ s₂ hz
  obtain ⟨x, g₁, s₁, hx, hz⟩ := returns_bind.mp hz
  obtain ⟨y, g₁', s₁', hy, hV, hR₁⟩ := hab hR hx
  obtain ⟨z', g₂', s₂', hz', hW, hR₂⟩ := hfk x y hV hR₁ hz
  exact ⟨z', g₂', s₂', returns_bind.mpr ⟨y, g₁', s₁', hy, hz'⟩, hW, hR₂⟩

theorem get {V : σ → σ → Prop} (h : ∀ ⦃g s g' s'⦄, R g s g' s' → V g g') :
    Mirrored w fuel R V Attempt.get Attempt.get := by
  intro g s g' s' hR x g₁ s₁ hx
  obtain ⟨rfl, rfl, rfl⟩ := returns_get.mp hx
  exact ⟨g', g', s', returns_get.mpr ⟨rfl, rfl, rfl⟩, h hR, hR⟩

theorem set {g₁ g₁' : σ} (h : ∀ ⦃g s g' s'⦄, R g s g' s' → R g₁ s g₁' s') :
    Mirrored w fuel R (fun _ _ => True) (Attempt.set g₁) (Attempt.set g₁') := by
  intro g s g' s' hR x g₂ s₂ hx
  obtain ⟨rfl, rfl⟩ := returns_set.mp hx
  exact ⟨(), g₁', s', returns_set.mpr ⟨rfl, rfl⟩, trivial, h hR⟩

theorem settle (r : Except Failure α) :
    Mirrored w fuel R (· = ·) (Attempt.settle r) (Attempt.settle r) := by
  intro g s g' s' hR x g₁ s₁ hx
  obtain ⟨hr, rfl, rfl⟩ := returns_settle.mp hx
  exact ⟨x, g', s', returns_settle.mpr ⟨hr, rfl, rfl⟩, rfl, hR⟩

theorem tellAll (signals signals' : List Signal) :
    Mirrored w fuel R (fun _ _ => True) (Attempt.tellAll signals) (Attempt.tellAll signals') := by
  intro g s g' s' hR x g₁ s₁ hx
  obtain ⟨rfl, rfl⟩ := returns_tellAll.mp hx
  exact ⟨(), g', s', returns_tellAll.mpr ⟨rfl, rfl⟩, trivial, hR⟩

theorem notice (n n' : Log.Notice) :
    Mirrored w fuel R (fun _ _ => True) (Attempt.notice n) (Attempt.notice n') :=
  tellAll _ _

theorem metric (m m' : Metric) :
    Mirrored w fuel R (fun _ _ => True) (Attempt.metric m) (Attempt.metric m') :=
  tellAll _ _

/-- Whether a request that has an answer in one state has the same answer in every related one. -/
def Answered (w : World S) (R : σ → S → σ → S → Prop) (q : Request) : Prop :=
  ∀ ⦃g s g' s'⦄, R g s g' s' → ∀ ⦃x s₁⦄, w.answer q s = (some (.ok x), s₁) →
    ∃ s₁', w.answer q s' = (some (.ok x), s₁') ∧ R g s₁ g' s₁'

theorem request {q : Request} (hq : Answered w R q) :
    Mirrored w fuel R (· = ·) (Attempt.request q) (Attempt.request q) := by
  intro g s g' s' hR x g₁ s₁ hx
  obtain ⟨hanswer, rfl⟩ := returns_request.mp hx
  obtain ⟨s₁', hanswer', hR₁⟩ := hq hR hanswer
  exact ⟨x, g', s₁', returns_request.mpr ⟨hanswer', rfl⟩, rfl, hR₁⟩

theorem gather {sweep : Sweep}
    (hq : ∀ cursor, Answered w R (.fetchKeys sweep.token sweep.groupId cursor)) :
    Mirrored w fuel R (· = ·) (Attempt.gather sweep) (Attempt.gather sweep) := by
  intro g s g' s' hR keys g₂ s₂ hkeys
  induction fuel generalizing sweep g s g' s' with
  | zero => exact absurd hkeys returns_gather_zero
  | succ fuel ih =>
      obtain ⟨batch, s₁, hanswer, hrest⟩ := returns_gather_succ.mp hkeys
      obtain ⟨s₁', hanswer', hR₁⟩ := hq sweep.cursor hR hanswer
      rcases hrest with ⟨sweep', htake, hrest⟩ | ⟨htake, rfl, rfl⟩
      · obtain ⟨cursor, batches, rfl⟩ := Sweep.eq_of_take_eq_inl htake
        obtain ⟨_, g₂', s₂', hrest', rfl, hR₂⟩ :=
          @ih { sweep with cursor, batches } hq _ _ _ _ hR₁ hrest
        exact ⟨keys, g₂', s₂',
          returns_gather_succ.mpr ⟨batch, s₁', hanswer', .inl ⟨_, htake, hrest'⟩⟩, rfl, hR₂⟩
      · exact ⟨keys, g', s₁',
          returns_gather_succ.mpr ⟨batch, s₁', hanswer', .inr ⟨htake, rfl, rfl⟩⟩, rfl, hR₁⟩

theorem tryCatch {a : Attempt σ α} {b : Attempt σ β} {f : Failure → Attempt σ α}
    {k : Failure → Attempt σ β} (hab : Mirrored w fuel R V a b)
    (hf : ∀ e g s x g' s', ¬ Returns w fuel (f e) g s x g' s')
    (hk : ∀ e g s x g' s', ¬ Returns w fuel (k e) g s x g' s') :
    Mirrored w fuel R V (MonadExcept.tryCatch a f) (MonadExcept.tryCatch b k) := by
  intro g s g' s' hR x g₁ s₁ hx
  have hx' := (returns_tryCatch fun e g s => hf e g s x g₁ s₁).mp hx
  obtain ⟨y, g₁', s₁', hy, hV, hR₁⟩ := hab hR hx'
  exact ⟨y, g₁', s₁', (returns_tryCatch fun e g s => hk e g s y g₁' s₁').mpr hy, hV, hR₁⟩

end Mirrored

end Keyring.Attempt
