import Keyring.Json.Basic
import Keyring.Text.Decimal
import Keyring.Text.Hex

namespace Keyring.Json

def escapeChar (c : Char) : List Char :=
  match c with
  | '"' => ['\\', '"']
  | '\\' => ['\\', '\\']
  | '\x08' => ['\\', 'b']
  | '\x0c' => ['\\', 'f']
  | '\n' => ['\\', 'n']
  | '\r' => ['\\', 'r']
  | '\t' => ['\\', 't']
  | c =>
    if c.toNat < 0x20 then
      ['\\', 'u', '0', '0', Hex.lower (c.toNat / 16), Hex.lower (c.toNat % 16)]
    else [c]

def quoted (s : String) : List Char :=
  '"' :: s.toList.flatMap escapeChar ++ ['"']

/-- The name of a member; a garbled one has no text of its own. -/
def memberName : Option String → List Char
  | some name => quoted name
  | none => quoted ""

mutual

def chars : Json → List Char
  | .null => ['n', 'u', 'l', 'l']
  | .bool true => ['t', 'r', 'u', 'e']
  | .bool false => ['f', 'a', 'l', 's', 'e']
  | .natural n => Decimal.digits n
  | .numeral literal => literal.toList
  | .text s => quoted s
  | .garbled => quoted ""
  | .array items => '[' :: itemChars items ++ [']']
  | .object members => '\x7b' :: memberChars members ++ ['\x7d']
  | .torn => []

def itemChars : List Json → List Char
  | [] => []
  | [j] => chars j
  | j :: rest => chars j ++ ',' :: itemChars rest

def memberChars : List (Option String × Json) → List Char
  | [] => []
  | [(name, j)] => memberName name ++ ':' :: chars j
  | (name, j) :: rest => memberName name ++ ':' :: chars j ++ ',' :: memberChars rest

end

def render (j : Json) : String :=
  String.ofList (chars j)

/-- A line break followed by two spaces per level. -/
def indent (level : Nat) : List Char :=
  '\n' :: List.replicate (2 * level) ' '

mutual

/-- The indented form of a value that stands at a level of nesting. -/
def prettyChars (level : Nat) : Json → List Char
  | .array [] => ['[', ']']
  | .array items => '[' :: prettyItems (level + 1) items ++ indent level ++ [']']
  | .object [] => ['\x7b', '\x7d']
  | .object members => '\x7b' :: prettyMembers (level + 1) members ++ indent level ++ ['\x7d']
  | .null => ['n', 'u', 'l', 'l']
  | .bool true => ['t', 'r', 'u', 'e']
  | .bool false => ['f', 'a', 'l', 's', 'e']
  | .natural n => Decimal.digits n
  | .numeral literal => literal.toList
  | .text s => quoted s
  | .garbled => quoted ""
  | .torn => []

def prettyItems (level : Nat) : List Json → List Char
  | [] => []
  | [j] => indent level ++ prettyChars level j
  | j :: rest => indent level ++ prettyChars level j ++ ',' :: prettyItems level rest

def prettyMembers (level : Nat) : List (Option String × Json) → List Char
  | [] => []
  | [(name, j)] => indent level ++ memberName name ++ ':' :: ' ' :: prettyChars level j
  | (name, j) :: rest =>
    indent level ++ memberName name ++ ':' :: ' ' :: prettyChars level j ++
      ',' :: prettyMembers level rest

end

def pretty (j : Json) : String :=
  String.ofList (prettyChars 0 j)

end Keyring.Json
