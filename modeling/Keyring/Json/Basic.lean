/-!
JSON values, with room for a text that stops being JSON: `torn` marks the point where it does. A
reader that walks a value from left to right then meets the tear where the text has it, after
everything that came before.
-/

namespace Keyring

/-- A JSON value as read from a text. -/
inductive Json where
  | null
  | bool (value : Bool)
  /-- A number written in plain digits. -/
  | natural (value : Nat)
  /-- Any other number, as written. -/
  | numeral (literal : String)
  | text (value : String)
  /-- A string whose escapes pair up to no characters: fine to skip, impossible to read. -/
  | garbled
  | array (items : List Json)
  /-- Members in the order of the text; a name that is `garbled` is `none`. -/
  | object (members : List (Option String × Json))
  /-- The text stops being JSON here. -/
  | torn
  deriving Inhabited

namespace Json

mutual

def sound : Json → Bool
  | .torn => false
  | .array items => soundItems items
  | .object members => soundMembers members
  | _ => true

def soundItems : List Json → Bool
  | [] => true
  | j :: rest => sound j && soundItems rest

def soundMembers : List (Option String × Json) → Bool
  | [] => true
  | (_, j) :: rest => sound j && soundMembers rest

end

def record (members : List (String × Json)) : Json :=
  .object (members.map fun m => (some m.1, m.2))

end Json

end Keyring
