namespace Keyring

namespace Toml

/-- How a table came about, which decides what later lines of a document may add to it. -/
inductive Origin where
  /-- By a header of its own; the table of the whole document counts as one. -/
  | header
  /-- As part of the path of a header. -/
  | implied
  /-- As part of a dotted key. -/
  | dotted
  /-- Between braces. -/
  | braces
  deriving DecidableEq, Repr

end Toml

/-- A TOML value. -/
inductive Toml where
  | text (value : String)
  | integer (value : Int)
  /-- A number with a fraction or an exponent, as written. -/
  | float (literal : String)
  | bool (value : Bool)
  /-- A date, a time or both, as written. -/
  | moment (literal : String)
  | array (items : List Toml)
  /-- The tables under a header in double brackets. -/
  | tables (items : List Toml)
  | table (origin : Toml.Origin) (entries : List (String × Toml))
  deriving Inhabited

end Keyring
