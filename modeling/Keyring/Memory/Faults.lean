import Keyring.Program.Run

namespace Keyring.Memory

/-- A planted fault: how many requests it lets through, and how many it then fails. -/
structure Fault where
  skip : Nat
  count : Nat
  deriving DecidableEq, Repr

abbrev Faults := List (String × Fault)

/-- What one more request leaves of a fault, and whether that request fails. -/
def Fault.strike : Fault → Fault × Bool
  | ⟨skip + 1, count⟩ => (⟨skip, count⟩, false)
  | ⟨0, count + 1⟩ => (⟨0, count⟩, true)
  | ⟨0, 0⟩ => (⟨0, 0⟩, false)

namespace Faults

/-- Plants a fault in place of the one that was there. -/
def plant (fs : Faults) (name : String) (f : Fault) : Faults :=
  (name, f) :: fs.filter (·.1 ≠ name)

/-- What a request leaves of the faults, and whether it fails. -/
def strike (name : String) : Faults → Faults × Bool
  | [] => ([], false)
  | (n, f) :: rest =>
    if n = name then ((n, f.strike.1) :: rest, f.strike.2)
    else
      let (rest, hit) := strike name rest
      ((n, f) :: rest, hit)

/-- How many requests a fault lets through before it strikes. -/
def skip (name : String) (fs : Faults) : Nat :=
  ((fs.lookup name).map Fault.skip).getD 0

end Faults

/-- The failure of a request that a fault strikes. -/
def injected (q : Request) : Failure :=
  let detail := "injected " ++ q.name
  match q.party with
  | .server => .gateway detail
  | .engine => .crypto detail
  | .store => .store detail

def withFaults {S : Type} (w : World S) : World (Faults × S) where
  answer q s :=
    match s.1.strike q.name with
    | (faults, true) => (some (.error (injected q)), (faults, s.2))
    | (faults, false) =>
      let (r, world) := w.answer q s.2
      (r, (faults, world))
  startTimer limit s := (s.1, w.startTimer limit s.2)
  stopTimer s := (s.1, w.stopTimer s.2)

end Keyring.Memory
