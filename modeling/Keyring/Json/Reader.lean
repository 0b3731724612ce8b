import Keyring.Json.Token

/-!
From tokens to a value, by a machine with a stack of open arrays and objects. Every text has a
value: where the machine meets a token that has no place there, the value is torn.
-/

namespace Keyring.Json

/-- An array or object that is still open. -/
inductive Frame where
  /-- An array, with its items so far, last first. -/
  | items (done : List Json)
  /-- An object, with its members so far, last first, and the name of the one that is open. -/
  | members (done : List (Option String × Json)) (name : Option String)

/-- What the machine waits for. -/
inductive Place where
  /-- A value, or the end of an array that has no item yet. -/
  | value (orEnd : Bool)
  /-- A name, or the end of an object that has no member yet. -/
  | name (done : List (Option String × Json)) (orEnd : Bool)
  /-- The colon after a name. -/
  | colon (done : List (Option String × Json)) (name : Option String)
  /-- What may follow a complete value. -/
  | after (value : Json)

/-- A text read as JSON: its value, and whether nothing follows the value. -/
structure Document where
  value : Json
  complete : Bool

def enclose (j : Json) : List Frame → Json
  | [] => j
  | .items done :: frames => enclose (.array (j :: done).reverse) frames
  | .members done label :: frames => enclose (.object ((label, j) :: done).reverse) frames

/-- The value of a text that tears at a place. -/
def Place.tear (frames : List Frame) : Place → Document
  | .value _ => ⟨enclose .torn frames, false⟩
  | .name done _ => ⟨enclose (.object ((some "", .torn) :: done).reverse) frames, false⟩
  | .colon done label => ⟨enclose (.object ((label, .torn) :: done).reverse) frames, false⟩
  | .after j =>
    match frames with
    | [] => ⟨j, false⟩
    | .items done :: rest => ⟨enclose (.array (.torn :: j :: done).reverse) rest, false⟩
    | .members done label :: rest =>
      ⟨enclose (.object ((some "", .torn) :: (label, j) :: done).reverse) rest, false⟩

/-- The name that a scalar gives to a member. -/
def nameOf? : Json → Option (Option String)
  | .text s => some (some s)
  | .garbled => some none
  | _ => none

/-- Where a token leads; `none` where it has no place. -/
def Place.next (frames : List Frame) : Place → Token → Option (Place × List Frame)
  | .value orEnd, t =>
    match t with
    | .scalar j => some (.after j, frames)
    | .mark '[' => some (.value true, .items [] :: frames)
    | .mark '\x7b' => some (.name [] true, frames)
    | .mark ']' =>
      match orEnd, frames with
      | true, .items done :: rest => some (.after (.array done.reverse), rest)
      | _, _ => none
    | _ => none
  | .name done orEnd, t =>
    match t with
    | .scalar j => (nameOf? j).map fun label => (.colon done label, frames)
    | .mark '\x7d' => if orEnd then some (.after (.object done.reverse), frames) else none
    | _ => none
  | .colon done label, t =>
    match t with
    | .mark ':' => some (.value false, .members done label :: frames)
    | _ => none
  | .after j, t =>
    match t, frames with
    | .mark ',', .items done :: rest => some (.value false, .items (j :: done) :: rest)
    | .mark ']', .items done :: rest => some (.after (.array (j :: done).reverse), rest)
    | .mark ',', .members done label :: rest => some (.name ((label, j) :: done) false, rest)
    | .mark '\x7d', .members done label :: rest =>
      some (.after (.object ((label, j) :: done).reverse), rest)
    | _, _ => none

def readFrom (place : Place) (frames : List Frame) : List Token → Document
  | [] =>
    match place, frames with
    | .after j, [] => ⟨j, true⟩
    | _, _ => place.tear frames
  | t :: rest =>
    match place.next frames t with
    | some (place', frames') => readFrom place' frames' rest
    | none => place.tear frames

def read (text : String) : Document :=
  readFrom (.value false) [] (tokens text)

end Keyring.Json
