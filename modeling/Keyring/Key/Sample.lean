import Keyring.Key.Basic
import Keyring.Text.Decimal

namespace Keyring.Key

def sample (id : String) (time : UInt64) : Key where
  id := id
  material := id ++ "-secret"
  privateMaterial := id ++ "-private"
  publicMaterial := id ++ "-public"
  time := time

/-- The sample keys `key-0`, `key-1`, … with their numbers as times, from `start` on. -/
def samplesFrom (start : Nat) : Nat → List Key
  | 0 => []
  | n + 1 => sample ("key-" ++ Decimal.render start) start.toUInt64 :: samplesFrom (start + 1) n

def samples (n : Nat) : List Key :=
  samplesFrom 0 n

end Keyring.Key
