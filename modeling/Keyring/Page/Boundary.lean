import Keyring.Json.Fields
import Keyring.Text.Lowercase

namespace Keyring.Page

/-- Where the last page of a history ends. -/
inductive Boundary where
  /-- Before the newest key, which no page holds. -/
  | compat
  /-- After the newest key. -/
  | inclusive
  deriving DecidableEq, Repr, Inhabited

namespace Boundary

def name : Boundary → String
  | compat => "compat"
  | inclusive => "inclusive"

def ofName? (s : String) : Option Boundary :=
  [compat, inclusive].find? (·.name == s)

def parse (text : String) : Except Failure Boundary :=
  let lowered := Text.lowercase text
  match ofName? lowered with
  | some b => .ok b
  | none => .error (.malformed ("unknown page boundary: " ++ lowered) false)

/-- The position at which the last page of a history of `count` keys ends. -/
def limit (b : Boundary) (count : UInt64) : UInt64 :=
  match b with
  | compat => if count = 0 then 0 else count - 1
  | inclusive => count

def toJson (b : Boundary) : Json :=
  .text b.name

def ofJson (j : Json) : Except ReadError Boundary := do
  match ofName? (← j.asChoice) with
  | some b => .ok b
  | none => .error .malformed

end Boundary

end Keyring.Page
