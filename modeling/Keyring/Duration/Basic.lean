import Keyring.Text.Decimal

namespace Keyring

/-- A span of time. -/
structure Duration where
  nanoseconds : Nat
  /-- The whole seconds fit into 64 bits. -/
  fits : nanoseconds / 1000000000 ≤ Decimal.max64 := by decide
  deriving DecidableEq, Repr

namespace Duration

def zero : Duration := ⟨0, by decide⟩

instance : Inhabited Duration := ⟨zero⟩

/-- The duration of a number of nanoseconds, if it is not too long. -/
def ofNanoseconds? (n : Nat) : Option Duration :=
  if h : n / 1000000000 ≤ Decimal.max64 then some ⟨n, h⟩ else none

def seconds (n : UInt64) : Duration :=
  ⟨n.toNat * 1000000000, by have := n.toNat_lt; unfold Decimal.max64; omega⟩

def wholeSeconds (d : Duration) : Nat :=
  d.nanoseconds / 1000000000

def fraction (d : Duration) : Nat :=
  d.nanoseconds % 1000000000

/-- The least number of whole milliseconds that is not shorter. -/
def millisecondsUp (d : Duration) : Nat :=
  (d.nanoseconds + 999999) / 1000000

def dropZeros (cs : List Char) : List Char :=
  (cs.reverse.dropWhile (· == '0')).reverse

/-- The first `places` decimal digits of a fraction below `10 ^ places`. -/
def fractionDigits : Nat → Nat → List Char
  | 0, _ => []
  | places + 1, n => Decimal.digitChar (n / 10 ^ places) :: fractionDigits places (n % 10 ^ places)

/-- A number with as many decimals as it needs. -/
def decimal (whole part places : Nat) : String :=
  match dropZeros (fractionDigits places part) with
  | [] => Decimal.render whole
  | ds => Decimal.render whole ++ "." ++ String.ofList ds

/-- A short form for messages, in the largest unit that the duration reaches. -/
def describe (d : Duration) : String :=
  let n := d.nanoseconds
  if n ≥ 1000000000 then decimal (n / 1000000000) (n % 1000000000) 9 ++ "s"
  else if n ≥ 1000000 then decimal (n / 1000000) (n % 1000000) 6 ++ "ms"
  else if n ≥ 1000 then decimal (n / 1000) (n % 1000) 3 ++ "µs"
  else Decimal.render n ++ "ns"

end Duration

end Keyring
