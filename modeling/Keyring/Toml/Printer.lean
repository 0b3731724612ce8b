import Keyring.Text.Decimal
import Keyring.Text.Hex
import Keyring.Toml.Token

namespace Keyring.Toml

/-- The length of the longest run of a character, given the run that leads up to the text. -/
def longestRun (q : Char) (run : Nat) : List Char → Nat
  | [] => run
  | c :: rest => if c = q then longestRun q (run + 1) rest else max run (longestRun q 0 rest)

/-- Whether a character can only be written by an escape. -/
def isControl (c : Char) : Bool :=
  (c.toNat < 0x20 && c ≠ '\t' && c ≠ '\n') || c.toNat = 0x7F

/-- How a string is quoted. -/
structure Style where
  quote : Quote
  block : Bool
  deriving DecidableEq, Repr

/-- Whether the text can stand as it is between quotes of a style. -/
def Style.holds (s : Style) (cs : List Char) : Bool :=
  !cs.any isControl &&
    (s.quote == .literal || !cs.contains '\\') &&
    (if s.block then longestRun s.quote.char 0 cs ≤ 2
      else !cs.contains s.quote.char && !cs.contains '\n')

/-- The first style that holds the text as it is; else the one with escapes, which spans lines if
the text does. -/
def styleFor (cs : List Char) : Style :=
  let styles : List Style := [⟨.basic, false⟩, ⟨.literal, false⟩, ⟨.basic, true⟩, ⟨.literal, true⟩]
  (styles.find? (·.holds cs)).getD ⟨.basic, cs.contains '\n'⟩

/-- The escape of a character, if it needs one in a basic string. -/
def escape? (block : Bool) (c : Char) : Option (List Char) :=
  match c with
  | '\x08' => some ['\\', 'b']
  | '\t' => some ['\\', 't']
  | '\n' => if block then none else some ['\\', 'n']
  | '\x0c' => some ['\\', 'f']
  | '\r' => some ['\\', 'r']
  | '\\' => some ['\\', '\\']
  | c => if isControl c then some ('\\' :: 'u' :: Hex.upper4 c.toNat) else none

/-- The inside of a basic string, given the number of quotes that stand before it. No more than two
quotes may stand together in a block, and none in a line. -/
def basicChars (block : Bool) (quotes : Nat) : List Char → List Char
  | [] => []
  | '"' :: rest =>
    if quotes < (if block then 2 else 0) then '"' :: basicChars block (quotes + 1) rest
    else '\\' :: '"' :: basicChars block 0 rest
  | c :: rest =>
    match escape? block c with
    | some e => e ++ basicChars block 0 rest
    | none => c :: basicChars block 0 rest

/-- A string in quotes of a style. A block that spans lines begins on a line of its own. -/
def Style.write (s : Style) (cs : List Char) : List Char :=
  let marks := List.replicate (if s.block then 3 else 1) s.quote.char
  let start := if s.block && cs.contains '\n' then ['\n'] else []
  let inner := match s.quote with
    | .basic => basicChars s.block 0 cs
    | .literal => cs
  marks ++ start ++ inner ++ marks

/-- A value of a section. -/
inductive Plain where
  | text (s : String)
  | natural (n : Nat)
  | bool (b : Bool)

/-- A plain value, unless it is a number that exceeds 64 bits with a sign. -/
def Plain.chars? : Plain → Option (List Char)
  | .text s => some ((styleFor s.toList).write s.toList)
  | .natural n => if n ≤ 9223372036854775807 then some (Decimal.digits n) else none
  | .bool true => some ['t', 'r', 'u', 'e']
  | .bool false => some ['f', 'a', 'l', 's', 'e']

def pairLine? (entry : String × Plain) : Option (List Char) :=
  entry.2.chars?.map fun v => entry.1.toList ++ [' ', '=', ' '] ++ v ++ ['\n']

def section? (s : String × List (String × Plain)) : Option (List Char) := do
  let lines ← s.2.mapM pairLine?
  return '[' :: s.1.toList ++ [']', '\n'] ++ lines.flatten

/-- A document of sections with empty lines between them. -/
def document? (sections : List (String × List (String × Plain))) : Option String := do
  let parts ← sections.mapM section?
  return String.ofList (List.intercalate ['\n'] parts)

end Keyring.Toml
