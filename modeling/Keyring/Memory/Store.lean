import Keyring.Assoc

namespace Keyring.Memory

/-- The store's state. -/
structure Store where
  entries : List (String × String) := []
  writes : Nat := 0
  deriving DecidableEq, Repr

namespace Store

def get? (s : Store) (key : String) : Option String :=
  s.entries.lookup key

def set (s : Store) (key value : String) : Store :=
  ⟨Assoc.put key value s.entries, s.writes + 1⟩

def keys (s : Store) : List String :=
  (s.entries.map (·.1)).mergeSort fun a b => a ≤ b

end Store

end Keyring.Memory
