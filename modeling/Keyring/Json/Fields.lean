import Keyring.Failure
import Keyring.Json.Reader
import Keyring.Text.Position

/-!
Reading typed values from JSON. A record is an object with its fields in any order, unknown members
ignored, or an array of its fields in their order. Everything is judged from left to right, so of
two faults in a text the first one decides.
-/

namespace Keyring

/-- Why a value could not be read. -/
inductive ReadError where
  /-- It is not JSON, or not of the wanted form. -/
  | malformed
  /-- It has the wanted form, and its content is refused. -/
  | refused (failure : Failure)
  deriving DecidableEq, Repr

namespace ReadError

/-- The failure that tells of a refusal. A position at the end of the message counts as the place of
the fault, unless it is in line zero; a fault inside a record is placed by the record. -/
def refusal (inRecord : Bool) (message : String) : Failure :=
  match Text.Position.split? message with
  | some (before, line) => .malformed before (inRecord || line ≠ 0)
  | none => .malformed message inRecord

/-- The failure to restore something, a record or not, from a text. -/
def toFailure (inRecord : Bool) : ReadError → Failure
  | malformed => .malformed "malformed text" false
  | refused failure => refusal inRecord failure.message

end ReadError

namespace Json

def asText : Json → Except ReadError String
  | .text s => .ok s
  | _ => .error .malformed

def asBool : Json → Except ReadError Bool
  | .bool b => .ok b
  | _ => .error .malformed

def asNat (bound : Nat) : Json → Except ReadError Nat
  | .natural n => if n ≤ bound then .ok n else .error .malformed
  | _ => .error .malformed

def asWord64 (j : Json) : Except ReadError UInt64 :=
  (asNat Decimal.max64 j).map Nat.toUInt64

def asWord32 (j : Json) : Except ReadError UInt32 :=
  (asNat Decimal.max32 j).map Nat.toUInt32

def asOptionalText : Json → Except ReadError (Option String)
  | .null => .ok none
  | .text s => .ok (some s)
  | _ => .error .malformed

def asItems : Json → Except ReadError (List Json)
  | .array items => .ok items
  | _ => .error .malformed

/-- One of several names, as a string or as the only member of an object, with `null`. -/
def asChoice : Json → Except ReadError String
  | .text s => .ok s
  | .object [(some name, .null)] => .ok name
  | _ => .error .malformed

/-- The fields of a record up to the first fault in its form, and whether there was none. -/
structure Entries where
  fields : List (String × Json)
  whole : Bool

/-- The known members among `members`; a name may not come twice, whatever is skipped must be
JSON. -/
def memberEntries (names seen : List String) : List (Option String × Json) → Entries
  | [] => ⟨[], true⟩
  | (none, _) :: _ => ⟨[], false⟩
  | (some name, j) :: rest =>
    if names.contains name then
      if seen.contains name then ⟨[], false⟩
      else
        let more := memberEntries names (name :: seen) rest
        ⟨(name, j) :: more.fields, more.whole⟩
    else if j.sound then memberEntries names seen rest
    else ⟨[], false⟩

/-- The fields of a record. An array has as many items as there are names, or at most as many where
`short` allows. -/
def entries (short : Bool) (names : List String) : Json → Entries
  | .object members => memberEntries names [] members
  | .array items =>
    ⟨names.zip items, if short then items.length ≤ names.length else items.length == names.length⟩
  | _ => ⟨[], false⟩

namespace Entries

def field? (e : Entries) (name : String) : Option Json :=
  e.fields.lookup name

def field (e : Entries) (name : String) : Except ReadError Json :=
  match e.field? name with
  | some j => .ok j
  | none => .error .malformed

end Entries

/-- The fields of a record without a fault in its form. -/
def asRecord (names : List String) (j : Json) : Except ReadError Entries :=
  let e := j.entries false names
  if e.whole then .ok e else .error .malformed

/-- Feeds items to `step` until one fails; gives the last state reached and how it ended. -/
def feed {σ ε α : Type} (step : σ → α → Except ε σ) : σ → List α → σ × Except ε Unit
  | s, [] => (s, .ok ())
  | s, a :: rest =>
    match step s a with
    | .ok s' => feed step s' rest
    | .error e => (s, .error e)

/-- Reads a whole text with a reader of its value; nothing may follow the value. -/
def decode {α : Type} (reader : Json → Except ReadError α) (text : String) :
    Except Failure α :=
  let d := read text
  match reader d.value with
  | .error e => .error (e.toFailure false)
  | .ok a => if d.complete then .ok a else .error (ReadError.malformed.toFailure false)

end Json

end Keyring
