namespace Keyring.Decimal

def digitChar (d : Nat) : Char :=
  Char.ofNat (48 + d)

def isDigit (c : Char) : Bool :=
  '0' ≤ c && c ≤ '9'

def digit? (c : Char) : Option Nat :=
  if '0' ≤ c ∧ c ≤ '9' then some (c.toNat - 48) else none

/-- The decimal digits of a number, without leading zeros. -/
def digits (n : Nat) : List Char :=
  if n < 10 then [digitChar n] else digits (n / 10) ++ [digitChar (n % 10)]

def render (n : Nat) : String :=
  String.ofList (digits n)

theorem toNat_digitChar : ∀ d < 10, (digitChar d).toNat = 48 + d := by
  decide

theorem foldl_digits (n : Nat) :
    (digits n).foldl (fun value c => 10 * value + (c.toNat - 48)) 0 = n := by
  induction n using digits.induct with
  | case1 n h =>
      rw [digits, if_pos h]
      simp [toNat_digitChar n h]
  | case2 n h ih =>
      rw [digits, if_neg h, List.foldl_append, ih, List.foldl_cons, List.foldl_nil,
        toNat_digitChar (n % 10) (by omega)]
      omega

theorem render_injective {m n : Nat} (h : render m = render n) : m = n := by
  have hdigits : digits m = digits n := String.ofList_injective h
  rw [← foldl_digits m, hdigits, foldl_digits]

/-- Why a text is no unsigned number within a bound. -/
inductive Fault where
  | empty
  | invalidDigit
  | tooLarge
  deriving DecidableEq, Repr

def Fault.message : Fault → String
  | .empty => "cannot parse integer from empty string"
  | .invalidDigit => "invalid digit found in string"
  | .tooLarge => "number too large to fit in target type"

/-- Extends a value by digits, stopping at the first character that is no digit or leads past the
bound. -/
def extend (bound : Nat) : Nat → List Char → Except Fault Nat
  | value, [] => .ok value
  | value, c :: rest =>
    match digit? c with
    | none => .error .invalidDigit
    | some d =>
      if 10 * value + d ≤ bound then extend bound (10 * value + d) rest else .error .tooLarge

/-- An unsigned number of at most `bound`: an optional plus sign, then at least one digit. -/
def parse (bound : Nat) (text : String) : Except Fault Nat :=
  match text.toList with
  | [] => .error .empty
  | ['+'] => .error .invalidDigit
  | '+' :: rest => extend bound 0 rest
  | cs => extend bound 0 cs

def max64 : Nat := 18446744073709551615

def max32 : Nat := 4294967295

def parse64 (text : String) : Except Fault UInt64 :=
  (parse max64 text).map Nat.toUInt64

def parse32 (text : String) : Except Fault UInt32 :=
  (parse max32 text).map Nat.toUInt32

end Keyring.Decimal
