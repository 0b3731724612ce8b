import Keyring.Proofs.Program.Requests
import Keyring.Proofs.Program.Recorded

/-!
What is said of a run besides its end: the states at which it asks, and the requests for keys in
its trace. A trace may be cut at such a request.
-/

namespace Keyring

def Event.isFetch (e : Event) : Bool :=
  e.request?.any Request.isFetch

/-- The number of requests for keys in a trace. -/
def fetchesIn (trace : List Event) : Nat :=
  trace.countP Event.isFetch

/-- The number of requests for keys that a run makes. -/
def Run.fetches {σ S α : Type} (r : Run σ S α) : Nat :=
  fetchesIn r.trace

/-- The states in which a run makes a request, or begins a fetch loop, and those in which it ends
with a result. -/
def Program.stages {σ S α : Type} (w : World S) (fuel : Nat) : Program σ α → σ → S → List (σ × S)
  | done _, state, world => [(state, world)]
  | ask q next, state, world =>
    (state, world) :: match w.answer q world with
      | (none, _) => []
      | (some r, world) => (next r).stages w fuel state world
  | gather s next, state, world =>
    (state, world) :: match s.run w fuel world with
      | (.finished r, world, _) => (next r).stages w fuel state world
      | _ => []
  | tell _ next, state, world => next.stages w fuel state world
  | read next, state, world => (next state).stages w fuel state world
  | write state next, _, world => next.stages w fuel state world

@[simp] theorem fetchesIn_nil : fetchesIn [] = 0 :=
  rfl

@[simp] theorem fetchesIn_append (trace trace' : List Event) :
    fetchesIn (trace ++ trace') = fetchesIn trace + fetchesIn trace' :=
  List.countP_append

@[simp] theorem fetchesIn_told (signals : List Signal) : fetchesIn (signals.map .told) = 0 := by
  rw [fetchesIn, List.countP_eq_zero]
  intro e he
  obtain ⟨signal, -, rfl⟩ := List.mem_map.mp he
  exact Bool.false_ne_true

theorem fetchesIn_cons (e : Event) (trace : List Event) :
    fetchesIn (e :: trace) = fetchesIn [e] + fetchesIn trace :=
  fetchesIn_append [e] trace

@[simp] theorem fetchesIn_called (q : Request) (r : q.Reply) :
    fetchesIn [.called q r] = if q.isFetch then 1 else 0 := by
  cases h : q.isFetch <;> simp [fetchesIn, Event.isFetch, Event.request?, h]

theorem Run.fetches_after {σ S α : Type} (events : List Event) (r : Run σ S α) :
    (r.after events).fetches = fetchesIn events + r.fetches :=
  fetchesIn_append ..

namespace Sweep

variable {S : Type} {w : World S}

/-- A fetch loop as a run, which has no state. -/
def loop (w : World S) (fuel : Nat) (sweep : Sweep) (world : S) :
    Run Unit S (Except Failure (List Key)) :=
  ⟨(sweep.run w fuel world).1, (), (sweep.run w fuel world).2.1, (sweep.run w fuel world).2.2⟩

/-- What a fetch loop leaves in a trace when it gets a batch. -/
def events (sweep : Sweep) (batch : List Key) : List Event :=
  .called sweep.request (.ok batch) :: (sweep.signals batch).map .told

theorem fetchesIn_events (sweep : Sweep) (batch : List Key) :
    fetchesIn (sweep.events batch) = 1 := by
  rw [events, fetchesIn_cons, fetchesIn_called, fetchesIn_told]
  rfl

theorem loop_succ (fuel : Nat) (sweep : Sweep) (world : S) :
    sweep.loop w (fuel + 1) world =
      match w.answer sweep.request world with
      | (none, world) => ⟨.cut, (), world, [.dropped sweep.request]⟩
      | (some (.error e), world) =>
        ⟨.finished (.error e), (), world, [.called sweep.request (.error e)]⟩
      | (some (.ok batch), world) =>
        match sweep.take batch with
        | .inr keys => ⟨.finished (.ok keys), (), world, sweep.events batch⟩
        | .inl sweep' => (sweep'.loop w fuel world).after (sweep.events batch) := by
  simp only [loop, run]
  rcases w.answer sweep.request world with ⟨_ | _ | batch, world⟩
  · rfl
  · rfl
  · dsimp only
    cases sweep.take batch <;> rfl

end Sweep

namespace Program

variable {σ S α : Type} (w : World S) (fuel : Nat) (sweep : Sweep)
  (next : Except Failure (List Key) → Program σ α) (state : σ) (world : S)

theorem run_gather : (gather sweep next).run w fuel state world =
    match (sweep.loop w fuel world).ending with
    | .finished r => ((next r).run w fuel state (sweep.loop w fuel world).world).after
        (sweep.loop w fuel world).trace
    | .cut => ⟨.cut, state, (sweep.loop w fuel world).world, (sweep.loop w fuel world).trace⟩
    | .exhausted =>
      ⟨.exhausted, state, (sweep.loop w fuel world).world, (sweep.loop w fuel world).trace⟩ := by
  simp only [run, Sweep.loop]
  rcases sweep.run w fuel world with ⟨_ | _ | _, _, _⟩ <;> rfl

theorem stages_gather : (gather sweep next).stages w fuel state world =
    (state, world) :: match (sweep.loop w fuel world).ending with
      | .finished r => (next r).stages w fuel state (sweep.loop w fuel world).world
      | _ => [] := by
  simp only [stages, Sweep.loop]
  rcases sweep.run w fuel world with ⟨_ | _ | _, _, _⟩ <;> rfl

end Program

/-- How a trace is cut whose requests for keys take some time each, when a time is left: at the first
of them that would end after that time. -/
inductive Severed (wait left : Nat) (trace trace' : List Event) : Prop where
  | intro (before after : List Event) (q : Request) (r : q.Reply) (hfetch : q.isFetch = true)
      (hwhole : trace = before ++ .called q r :: after) (hcut : trace' = before ++ [.dropped q])
      (hearly : fetchesIn before * wait < left) (hlate : left < (fetchesIn before + 1) * wait)

namespace Severed

variable {wait left : Nat} {trace trace' : List Event}

theorem first {q : Request} (r : q.Reply) (after : List Event) (hfetch : q.isFetch = true)
    (hleft : 0 < left) (hlate : left < wait) :
    Severed wait left (.called q r :: after) [.dropped q] :=
  .intro [] after q r hfetch rfl rfl (by simpa using hleft) (by simpa using hlate)

theorem prepend {events : List Event} (hleft : fetchesIn events * wait < left)
    (h : Severed wait (left - fetchesIn events * wait) trace trace') :
    Severed wait left (events ++ trace) (events ++ trace') := by
  obtain ⟨before, after, q, r, hfetch, rfl, rfl, hearly, hlate⟩ := h
  refine .intro (events ++ before) after q r hfetch (by simp) (by simp) ?_ ?_
  · rw [fetchesIn_append, Nat.add_mul]
    omega
  · rw [fetchesIn_append, Nat.add_assoc, Nat.add_mul]
    omega

theorem append (h : Severed wait left trace trace') (more : List Event) :
    Severed wait left (trace ++ more) trace' := by
  obtain ⟨before, after, q, r, hfetch, rfl, rfl, hearly, hlate⟩ := h
  exact .intro before (after ++ more) q r hfetch (by simp) rfl hearly hlate

theorem late (h : Severed wait left trace trace') : left < fetchesIn trace * wait := by
  obtain ⟨before, after, q, r, hfetch, rfl, -, -, hlate⟩ := h
  have hmore : fetchesIn before + 1 ≤ fetchesIn (before ++ .called q r :: after) := by
    rw [fetchesIn_append, fetchesIn_cons, fetchesIn_called, if_pos hfetch]
    omega
  exact Nat.lt_of_lt_of_le hlate (Nat.mul_le_mul_right wait hmore)

theorem getLast? (h : Severed wait left trace trace') :
    ∃ q : Request, q.isFetch = true ∧ trace'.getLast? = some (.dropped q) := by
  obtain ⟨before, after, q, r, hfetch, -, rfl, -, -⟩ := h
  exact ⟨q, hfetch, List.getLast?_concat⟩

end Severed

end Keyring
