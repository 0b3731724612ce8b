import Keyring.Duration.Basic
import Keyring.Text.Blank

namespace Keyring.Duration

/-- A unit of time. -/
inductive TimeUnit where
  | nanosecond
  | microsecond
  | millisecond
  | second
  | minute
  | hour
  | day
  | week
  | month
  | year
  deriving DecidableEq, Repr

namespace TimeUnit

def names : TimeUnit → List String
  | nanosecond => ["nanos", "nsec", "ns"]
  | microsecond => ["usec", "us", "µs"]
  | millisecond => ["millis", "msec", "ms"]
  | second => ["seconds", "second", "secs", "sec", "s"]
  | minute => ["minutes", "minute", "min", "mins", "m"]
  | hour => ["hours", "hour", "hrs", "hr", "h"]
  | day => ["days", "day", "d"]
  | week => ["weeks", "week", "wks", "wk", "w"]
  | month => ["months", "month", "M"]
  | year => ["years", "year", "yrs", "yr", "y"]

def all : List TimeUnit :=
  [nanosecond, microsecond, millisecond, second, minute, hour, day, week, month, year]

def ofName? (s : String) : Option TimeUnit :=
  all.find? (·.names.contains s)

def nanos : TimeUnit → Nat
  | nanosecond => 1
  | microsecond => 1000
  | millisecond => 1000000
  | _ => 0

/-- The seconds of a unit from the second on. -/
def secs : TimeUnit → Nat
  | second => 1
  | minute => 60
  | hour => 3600
  | day => 86400
  | week => 604800
  | month => 2630016
  | year => 31557600
  | _ => 0

end TimeUnit

/-- The decimals of a number: their digits as a number, and the power of ten that it counts. -/
structure Decimals where
  digits : Nat
  scale : Nat
  deriving DecidableEq, Repr

def word? (n : Nat) : Option Nat :=
  if n ≤ Decimal.max64 then some n else none

/-- Adds seconds and nanoseconds; the nanoseconds count from the last whole second and fit into 64
bits. -/
def plus? (d : Duration) (secs nanos : Nat) : Option Duration := do
  let _ ← word? (d.fraction + nanos)
  ofNanoseconds? (d.nanoseconds + secs * 1000000000 + nanos)

def exactly? (n d : Nat) : Option Nat :=
  if n % d = 0 then some (n / d) else none

/-- The seconds and nanoseconds of a whole number of units. -/
def wholePart (n : Nat) (u : TimeUnit) : Option (Nat × Nat) := do
  return (← word? (n * u.secs), ← word? (n * u.nanos))

/-- The seconds and nanoseconds of the decimals of a number of units. Parts of a nanosecond are
refused, and so are parts of a second in decimals of an hour or more. -/
def decimalPart (f : Decimals) (u : TimeUnit) : Option (Nat × Nat) :=
  match u with
  | .nanosecond => none
  | .second => do return (0, ← exactly? (← word? (f.digits * 1000000000)) f.scale)
  | .minute => do return (0, ← exactly? (← word? (f.digits * 60000000000)) f.scale)
  | .microsecond | .millisecond => do
    return (0, ← exactly? (← word? (f.digits * u.nanos)) f.scale)
  | _ => do return (← exactly? (← word? (f.digits * u.secs)) f.scale, 0)

def addUnits (d : Duration) (n : Nat) (f : Option Decimals) (name : String) :
    Option Duration := do
  let u ← TimeUnit.ofName? name
  let (secs, nanos) ← wholePart n u
  let d ← plus? d secs nanos
  match f with
  | none => return d
  | some f =>
    let (secs, nanos) ← decimalPart f u
    plus? d secs nanos

/-- Where the machine stands. -/
inductive Stage where
  /-- Before a number. -/
  | gap
  | whole (n : Nat)
  | decimals (n : Nat) (f : Decimals)
  /-- In the name of a unit, with its letters so far, last first. -/
  | unit (n : Nat) (f : Option Decimals) (seen : List Char)

/-- The machine: the sum so far, if there is one, and the stage. -/
structure Scan where
  sum : Option Duration := none
  stage : Stage := .gap

def isUnitLetter (c : Char) : Bool :=
  ('a' ≤ c && c ≤ 'z') || ('A' ≤ c && c ≤ 'Z') || c == 'µ'

namespace Scan

def finishUnit (s : Scan) (n : Nat) (f : Option Decimals) (seen : List Char) :
    Option Duration :=
  addUnits (s.sum.getD zero) n f (String.ofList seen.reverse)

def push (s : Scan) (c : Char) : Option Scan :=
  match s.stage with
  | .gap =>
    match Decimal.digit? c with
    | some d => some { s with stage := .whole d }
    | none => if Text.isBlank c then some s else none
  | .whole n =>
    match Decimal.digit? c with
    | some d => (word? (10 * n + d)).map fun n => { s with stage := .whole n }
    | none =>
      if Text.isBlank c then some s
      else if isUnitLetter c then some { s with stage := .unit n none [c] }
      else if c == '.' then some { s with stage := .decimals n ⟨0, 1⟩ }
      else none
  | .decimals n f =>
    match Decimal.digit? c with
    | some d => do
      let digits ← word? (10 * f.digits + d)
      let scale ← word? (10 * f.scale)
      return { s with stage := .decimals n ⟨digits, scale⟩ }
    | none =>
      if Text.isBlank c then some s
      else if isUnitLetter c && f.scale ≠ 1 then some { s with stage := .unit n (some f) [c] }
      else none
  | .unit n f seen =>
    if isUnitLetter c then some { s with stage := .unit n f (c :: seen) }
    else match Decimal.digit? c with
      | some d => do return ⟨some (← s.finishUnit n f seen), .whole d⟩
      | none => do
        if Text.isBlank c then return ⟨some (← s.finishUnit n f seen), .gap⟩ else none

def close (s : Scan) : Option Duration :=
  match s.stage with
  | .gap => s.sum
  | .unit n f seen => s.finishUnit n f seen
  | _ => none

end Scan

/-- Reads a duration. A bare zero needs no unit. -/
def parse (text : String) : Option Duration := do
  if text = "0" then return zero
  (← text.toList.foldlM Scan.push {}).close

/-- A count with a name that has an `s` in the plural; nothing for a count of zero. -/
def plural (count : Nat) (name : String) : List String :=
  if count = 0 then []
  else [Decimal.render count ++ name ++ if count = 1 then "" else "s"]

/-- A count with a name; nothing for a count of zero. -/
def counted (count : Nat) (name : String) : List String :=
  if count = 0 then [] else [Decimal.render count ++ name]

/-- The parts of a duration by unit, largest first. -/
def parts (d : Duration) : List String :=
  let inYear := d.wholeSeconds % 31557600
  let inMonth := inYear % 2630016
  let inDay := inMonth % 86400
  plural (d.wholeSeconds / 31557600) "year" ++
    plural (inYear / 2630016) "month" ++
    plural (inMonth / 86400) "day" ++
    counted (inDay / 3600) "h" ++
    counted (inDay % 3600 / 60) "m" ++
    counted (inDay % 60) "s" ++
    counted (d.fraction / 1000000) "ms" ++
    counted (d.fraction / 1000 % 1000) "us" ++
    counted (d.fraction % 1000) "ns"

def render (d : Duration) : String :=
  match d.parts with
  | [] => "0s"
  | ps => " ".intercalate ps

end Keyring.Duration
