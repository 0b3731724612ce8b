import Keyring.Text.Decimal
import Keyring.Text.Hex
import Keyring.Toml.Basic

namespace Keyring.Toml

/-- The digits of a run that may have single underscores between its digits. -/
def withoutUnderscores (isDigit : Char → Bool) : List Char → Option (List Char)
  | [] => none
  | [c] => if isDigit c then some [c] else none
  | c :: '_' :: rest =>
    if isDigit c then (withoutUnderscores isDigit rest).map (c :: ·) else none
  | c :: rest => if isDigit c then (withoutUnderscores isDigit rest).map (c :: ·) else none

def valueOf (base : Nat) (cs : List Char) : Nat :=
  cs.foldl (fun n c => base * n + (Hex.digit? c).getD 0) 0

/-- An integer, if it fits into 64 bits with a sign. -/
def word? (n : Int) : Option Toml :=
  if -9223372036854775808 ≤ n ∧ n ≤ 9223372036854775807 then some (.integer n) else none

/-- A text without its sign, and whether the sign is a minus. -/
def splitSign : List Char → Bool × List Char
  | '-' :: rest => (true, rest)
  | '+' :: rest => (false, rest)
  | cs => (false, cs)

/-- The digits of an integer part, which has no leading zero. -/
def integerDigits? (cs : List Char) : Option (List Char) := do
  let ds ← withoutUnderscores Decimal.isDigit cs
  if ds.length ≠ 1 ∧ ds.head? = some '0' then none else some ds

def decimal? (cs : List Char) : Option Toml := do
  let (negative, rest) := splitSign cs
  let n : Int := valueOf 10 (← integerDigits? rest)
  word? (if negative then -n else n)

/-- An integer to a base that a letter names. -/
def based? : List Char → Option Toml
  | '0' :: 'x' :: rest => do
    word? (valueOf 16 (← withoutUnderscores (fun c => (Hex.digit? c).isSome) rest))
  | '0' :: 'o' :: rest => do
    word? (valueOf 8 (← withoutUnderscores (fun c => '0' ≤ c && c ≤ '7') rest))
  | '0' :: 'b' :: rest => do
    word? (valueOf 2 (← withoutUnderscores (fun c => c == '0' || c == '1') rest))
  | _ => none

/-- Whether a decimal number is at least as large as the doubles reach: `digits` followed by
`exponent` zeros, or with that many of them behind the point. -/
def exceedsDouble (digits : List Char) (exponent : Int) : Bool :=
  let m := valueOf 10 digits
  let reach := (Decimal.digits m).length + exponent
  if m = 0 then false
  else if 310 < reach then true
  else if reach < 309 then false
  else
    let bound := Nat.pow 2 1024 - Nat.pow 2 970
    if 0 ≤ exponent then bound ≤ m * Nat.pow 10 exponent.toNat
    else bound * Nat.pow 10 (-exponent).toNat ≤ m

/-- A number with a fraction or an exponent, or one of the special values. A number that exceeds
the doubles is refused unless it is negative. -/
def float? (cs : List Char) : Option Toml := do
  let (negative, rest) := splitSign cs
  let made := Toml.float (String.ofList cs)
  if rest = ['i', 'n', 'f'] ∨ rest = ['n', 'a', 'n'] then return made
  let isE (c : Char) : Bool := c == 'e' || c == 'E'
  let mantissa := rest.takeWhile (! isE ·)
  let power := rest.dropWhile (! isE ·)
  let whole ← integerDigits? (mantissa.takeWhile (· ≠ '.'))
  let places ← match mantissa.dropWhile (· ≠ '.') with
    | [] => if power.isEmpty then none else some []
    | _ :: fraction => withoutUnderscores Decimal.isDigit fraction
  let exponent : Int ← match power with
    | [] => some 0
    | _ :: digits => do
      let (down, digits) := splitSign digits
      let n : Int := valueOf 10 (← withoutUnderscores Decimal.isDigit digits)
      pure (if down then -n else n)
  if !negative && exceedsDouble (whole ++ places) (exponent - places.length) then none
  else return made

def twoDigits? (bound : Nat) (a b : Char) : Option Nat :=
  if Decimal.isDigit a && Decimal.isDigit b then
    let n := valueOf 10 [a, b]
    if n ≤ bound then some n else none
  else none

def daysIn (year month : Nat) : Nat :=
  if month = 2 then
    if year % 4 = 0 ∧ (year % 100 ≠ 0 ∨ year % 400 = 0) then 29 else 28
  else if month = 4 ∨ month = 6 ∨ month = 9 ∨ month = 11 then 30
  else 31

/-- Whether a text is a date, and what follows it. -/
def date? : List Char → Option (List Char)
  | a :: b :: c :: d :: '-' :: e :: f :: '-' :: g :: h :: rest => do
    if !([a, b, c, d].all Decimal.isDigit) then none
    let month ← twoDigits? 12 e f
    let day ← twoDigits? 31 g h
    if month = 0 ∨ day = 0 ∨ daysIn (valueOf 10 [a, b, c, d]) month < day then none
    else return rest
  | _ => none

/-- Whether a text is a time, and what follows it. -/
def time? : List Char → Option (List Char)
  | a :: b :: ':' :: c :: d :: ':' :: e :: f :: rest => do
    let _ ← twoDigits? 23 a b
    let _ ← twoDigits? 59 c d
    let _ ← twoDigits? 60 e f
    match rest with
    | '.' :: more =>
      if (more.takeWhile Decimal.isDigit).isEmpty then none
      else return more.dropWhile Decimal.isDigit
    | _ => return rest
  | _ => none

/-- Whether a text is the distance from universal time, or nothing. -/
def isOffset : List Char → Bool
  | [] => true
  | ['Z'] => true
  | ['z'] => true
  | [sign, a, b, ':', c, d] =>
    (sign == '+' || sign == '-') && (twoDigits? 23 a b).isSome && (twoDigits? 59 c d).isSome
  | _ => false

/-- Whether a text is a date and nothing else. -/
def isDate (cs : List Char) : Bool :=
  date? cs == some []

/-- Whether a text is a date, a time, or a date with a time. -/
def isMoment (cs : List Char) : Bool :=
  match date? cs with
  | some [] => true
  | some (c :: rest) =>
    (c == 'T' || c == 't' || c == ' ') &&
      match time? rest with
      | some rest => isOffset rest
      | none => false
  | none => time? cs == some []

def ofLiteral? (cs : List Char) : Option Toml :=
  if cs = ['t', 'r', 'u', 'e'] then some (.bool true)
  else if cs = ['f', 'a', 'l', 's', 'e'] then some (.bool false)
  else if isMoment cs then some (.moment (String.ofList cs))
  else (decimal? cs <|> based? cs) <|> float? cs

end Keyring.Toml
