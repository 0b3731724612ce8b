import Keyring.Duration.Basic

/-!
The clock of a simulation. Time is a count of milliseconds that only waits move forward, and a
deadline cuts a wait that would end after it; one that ends at the deadline is over in time.

Not every stop of a run is a wait: a store or a group may be free at once, a wait may be for no time
at all. Such stops are passed without a look at the deadline, up to the length of a turn. A stop at
the end of a turn is cut if the deadline has come, and begins a new turn if not. A wait begins a new
turn, too, and so does a run that gives way to others.
-/

namespace Keyring.Memory

/-- The number of stops that a run passes in one turn. -/
def turnLength : Nat := 128

/-- A clock. -/
structure Clock where
  /-- The milliseconds since the beginning. -/
  now : Nat := 0
  deadline : Option Nat := none
  /-- How many more stops the turn has. -/
  stops : Nat := turnLength

namespace Clock

/-- Sets a deadline. It is only looked at from the next turn on if this one is at its end. -/
def start (limit : Duration) (c : Clock) : Clock :=
  { c with
    deadline := some (c.now + limit.millisecondsUp)
    stops := if c.stops = 0 then turnLength else c.stops }

def clear (c : Clock) : Clock :=
  { c with deadline := none }

def due (c : Clock) : Bool :=
  c.deadline.any (· ≤ c.now)

/-- Passes a stop without a wait, unless it is cut. -/
def pass (c : Clock) : Bool × Clock :=
  match c.stops with
  | n + 1 => (true, { c with stops := n })
  | 0 => if c.due then (false, c) else (true, { c with stops := turnLength - 1 })

def goTo (time : Nat) (c : Clock) : Clock :=
  { c with now := time, stops := turnLength - 1 }

/-- Waits for a number of milliseconds, unless the wait is cut. -/
def wait (time : Nat) (c : Clock) : Bool × Clock :=
  if time = 0 then c.pass
  else
    let stop := c.now + time
    match c.deadline with
    | none => (true, c.goTo stop)
    | some d =>
      if stop ≤ d then (true, c.goTo stop)
      else if c.now < d then (false, c.goTo d)
      else (false, { c with stops := c.stops - 1 })

/-- Gives way to others at a stop, unless the stop is cut. -/
def giveWay (c : Clock) : Bool × Clock :=
  match c.pass with
  | (false, c) => (false, c)
  | (true, c) => if c.due then (false, c) else (true, { c with stops := turnLength })

/-- Waits for a number of tasks, which take no time; the result of each is a stop. -/
def gather (tasks : Nat) (c : Clock) : Clock :=
  if tasks = 0 then c else { c with stops := turnLength - tasks }

end Clock

end Keyring.Memory
