import Keyring.Duration.Basic
import Keyring.Program.Basic

/-!
Running programs in a world that answers requests. The world may let a request wait for ever: the
run is then cut, and what the program has done until then stays. A run keeps a trace of all
requests and signals.
-/

namespace Keyring

/-- A world of collaborators whose state has type `S`. -/
structure World (S : Type) where
  /-- Answers a request, or cuts the run. -/
  answer : (q : Request) → S → Option q.Reply × S
  /-- Sets a limit to the time that requests may wait. -/
  startTimer : Duration → S → S := fun _ s => s
  /-- Takes the limit away. -/
  stopTimer : S → S := id

/-- Something that happens in a run. -/
inductive Event where
  | called (q : Request) (r : q.Reply)
  /-- A request that was not answered before the run was cut. -/
  | dropped (q : Request)
  | told (s : Signal)

namespace Event

def request? : Event → Option Request
  | called q _ => some q
  | dropped q => some q
  | told _ => none

def signal? : Event → Option Signal
  | told s => some s
  | _ => none

end Event

/-- How a run ends. -/
inductive Ending (α : Type) where
  | finished (a : α)
  | cut
  /-- A fetch loop did not come to an end within the requests that the run allowed. -/
  | exhausted
  deriving Repr

def Ending.map {α β : Type} (f : α → β) : Ending α → Ending β
  | .finished a => .finished (f a)
  | .cut => .cut
  | .exhausted => .exhausted

/-- A run: its ending, the states it leaves, and its trace. -/
structure Run (σ S α : Type) where
  ending : Ending α
  state : σ
  world : S
  trace : List Event

namespace Run

variable {σ S α : Type}

def after (events : List Event) (r : Run σ S α) : Run σ S α :=
  { r with trace := events ++ r.trace }

end Run

/-- A fetch loop in a world, with at most `fuel` requests. -/
def Sweep.run {S : Type} (w : World S) : Nat → Sweep → S →
    Ending (Except Failure (List Key)) × S × List Event
  | 0, _, world => (.exhausted, world, [])
  | fuel + 1, s, world =>
    match w.answer s.request world with
    | (none, world) => (.cut, world, [.dropped s.request])
    | (some (.error e), world) => (.finished (.error e), world, [.called s.request (.error e)])
    | (some (.ok batch), world) =>
      let events := .called s.request (.ok batch) :: (s.signals batch).map .told
      match s.take batch with
      | .inr keys => (.finished (.ok keys), world, events)
      | .inl s =>
        let (ending, world, more) := Sweep.run w fuel s world
        (ending, world, events ++ more)

namespace Program

variable {σ S α : Type}

/-- Runs a program in a world, with at most `fuel` requests per fetch loop. -/
def run (w : World S) (fuel : Nat) : Program σ α → σ → S → Run σ S α
  | done a, state, world => ⟨.finished a, state, world, []⟩
  | ask q next, state, world =>
    match w.answer q world with
    | (none, world) => ⟨.cut, state, world, [.dropped q]⟩
    | (some r, world) => ((next r).run w fuel state world).after [.called q r]
  | gather s next, state, world =>
    match s.run w fuel world with
    | (.cut, world, events) => ⟨.cut, state, world, events⟩
    | (.exhausted, world, events) => ⟨.exhausted, state, world, events⟩
    | (.finished r, world, events) => ((next r).run w fuel state world).after events
  | tell s next, state, world => (next.run w fuel state world).after [.told s]
  | read next, state, world => (next state).run w fuel state world
  | write state next, _, world => next.run w fuel state world

/-- Runs a program up to the answer of its next request, or to its end; gives the rest of it, unless
the request cuts it off. -/
def step (w : World S) : Program σ α → σ → S → Option (Program σ α × σ) × S × List Event
  | done a, state, world => (some (done a, state), world, [])
  | ask q next, state, world =>
    match w.answer q world with
    | (none, world) => (none, world, [.dropped q])
    | (some r, world) => (some (next r, state), world, [.called q r])
  | gather s next, state, world =>
    match w.answer s.request world with
    | (none, world) => (none, world, [.dropped s.request])
    | (some (.error e), world) =>
      (some (next (.error e), state), world, [.called s.request (.error e)])
    | (some (.ok batch), world) =>
      let events := .called s.request (.ok batch) :: (s.signals batch).map .told
      match s.take batch with
      | .inr keys => (some (next (.ok keys), state), world, events)
      | .inl s => (some (gather s next, state), world, events)
  | tell s next, state, world =>
    let (rest, world, events) := next.step w state world
    (rest, world, .told s :: events)
  | read next, state, world => (next state).step w state world
  | write state next, _, world => next.step w state world

/-- Runs a program under a time limit, and another one if the first is cut. -/
def runWithin (w : World S) (fuel : Nat) (limit : Duration) (body expired : Program σ α)
    (state : σ) (world : S) : Run σ S α :=
  let r := body.run w fuel state (w.startTimer limit world)
  let world := w.stopTimer r.world
  match r.ending with
  | .cut => (expired.run w fuel r.state world).after r.trace
  | ending => ⟨ending, r.state, world, r.trace⟩

end Program

end Keyring
