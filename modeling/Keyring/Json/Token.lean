import Keyring.Json.Basic
import Keyring.Text.Decimal
import Keyring.Text.Hex

namespace Keyring.Json

/-- A token of a JSON text. -/
inductive Token where
  /-- A bracket, brace, colon or comma. -/
  | mark (c : Char)
  /-- A value that is one token. -/
  | scalar (value : Json)
  /-- A character that no token admits; what follows it has no meaning. -/
  | torn

/-- The part of a string read so far. -/
structure Quoted where
  /-- Its characters, last first. -/
  chars : List Char := []
  /-- An escaped high surrogate that waits for its low one. -/
  high : Option Nat := none
  garbled : Bool := false

namespace Quoted

/-- Adds a character; a high surrogate before it stays without its partner. -/
def push (q : Quoted) (c : Char) : Quoted :=
  { q with chars := c :: q.chars, high := none, garbled := q.garbled || q.high.isSome }

def pushUnit (q : Quoted) (n : Nat) : Quoted :=
  let low := 0xDC00 ≤ n && n < 0xE000
  match q.high with
  | some h =>
    if low then
      { q with chars := Char.ofNat (0x10000 + (h - 0xD800) * 0x400 + (n - 0xDC00)) :: q.chars,
               high := none }
    else { q with high := none, garbled := true }
  | none =>
    if 0xD800 ≤ n && n < 0xDC00 then { q with high := some n }
    else if low then { q with garbled := true }
    else { q with chars := Char.ofNat n :: q.chars }

def close (q : Quoted) : Json :=
  if q.garbled || q.high.isSome then .garbled else .text (String.ofList q.chars.reverse)

end Quoted

/-- Where the machine stands between two characters. -/
inductive Mode where
  | between
  /-- In a word, with its letters so far, last first. -/
  | word (seen : List Char)
  /-- In a number, with its characters so far, last first. -/
  | number (seen : List Char)
  | inside (q : Quoted)
  | escaped (q : Quoted)
  /-- In a four-digit escape, with the count and the value of the digits so far. -/
  | unit (q : Quoted) (count value : Nat)

def unescape : Char → Option Char
  | '"' => some '"'
  | '\\' => some '\\'
  | '/' => some '/'
  | 'b' => some '\x08'
  | 'f' => some '\x0c'
  | 'n' => some '\n'
  | 'r' => some '\r'
  | 't' => some '\t'
  | _ => none

/-- The digits at the front of a text, of which there must be one, and what follows. -/
def digitRun : List Char → Option (List Char)
  | [] => none
  | c :: rest => if Decimal.isDigit c then some (rest.dropWhile Decimal.isDigit) else none

/-- What follows the exponent of a number, if it has one. -/
def afterExponent : List Char → Option (List Char)
  | c :: rest =>
    if c = 'e' ∨ c = 'E' then
      match rest with
      | '+' :: more => digitRun more
      | '-' :: more => digitRun more
      | more => digitRun more
    else some (c :: rest)
  | [] => some []

/-- What follows the fraction of a number, if it has one. -/
def afterFraction : List Char → Option (List Char)
  | '.' :: rest => digitRun rest
  | cs => some cs

/-- What follows the integer part of a number, which has no leading zero. -/
def afterInteger : List Char → Option (List Char)
  | '0' :: rest => some rest
  | cs => digitRun cs

/-- Whether a text is a number without a sign. -/
def isMagnitude (cs : List Char) : Bool :=
  match (afterInteger cs).bind afterFraction |>.bind afterExponent with
  | some [] => true
  | _ => false

def digitsValue (cs : List Char) : Nat :=
  cs.foldl (fun n c => 10 * n + (c.toNat - 48)) 0

def numberToken (cs : List Char) : Token :=
  let magnitude := match cs with
    | '-' :: rest => rest
    | _ => cs
  if isMagnitude magnitude then
    if cs.all Decimal.isDigit then .scalar (.natural (digitsValue cs))
    else .scalar (.numeral (String.ofList cs))
  else .torn

def wordToken (cs : List Char) : Token :=
  if cs = ['n', 'u', 'l', 'l'] then .scalar .null
  else if cs = ['t', 'r', 'u', 'e'] then .scalar (.bool true)
  else if cs = ['f', 'a', 'l', 's', 'e'] then .scalar (.bool false)
  else .torn

def isLetter (c : Char) : Bool :=
  'a' ≤ c && c ≤ 'z'

def isNumeric (c : Char) : Bool :=
  Decimal.isDigit c || c == '+' || c == '-' || c == '.' || c == 'e' || c == 'E'

def enter (c : Char) : List Token × Mode :=
  if c = ' ' ∨ c = '\t' ∨ c = '\n' ∨ c = '\r' then ([], .between)
  else if c = '[' ∨ c = ']' ∨ c = '\x7b' ∨ c = '\x7d' ∨ c = ':' ∨ c = ',' then
    ([.mark c], .between)
  else if c = '"' then ([], .inside {})
  else if isLetter c then ([], .word [c])
  else if isNumeric c then ([], .number [c])
  else ([.torn], .between)

namespace Mode

/-- The tokens that a character completes, and where the machine goes. -/
def step : Mode → Char → List Token × Mode
  | .between, c => enter c
  | .word seen, c =>
    if isLetter c then ([], .word (c :: seen))
    else (wordToken seen.reverse :: (enter c).1, (enter c).2)
  | .number seen, c =>
    if isNumeric c then ([], .number (c :: seen))
    else (numberToken seen.reverse :: (enter c).1, (enter c).2)
  | .inside q, c =>
    if c = '"' then ([.scalar q.close], .between)
    else if c = '\\' then ([], .escaped q)
    else if c.toNat < 0x20 then ([.torn], .between)
    else ([], .inside (q.push c))
  | .escaped q, c =>
    if c = 'u' then ([], .unit q 0 0)
    else match unescape c with
      | some d => ([], .inside (q.push d))
      | none => ([.torn], .between)
  | .unit q count value, c =>
    match Hex.digit? c with
    | none => ([.torn], .between)
    | some d =>
      if count = 3 then ([], .inside (q.pushUnit (16 * value + d)))
      else ([], .unit q (count + 1) (16 * value + d))

/-- The token that the end of the text completes. -/
def finish : Mode → List Token
  | .between => []
  | .word seen => [wordToken seen.reverse]
  | .number seen => [numberToken seen.reverse]
  | _ => [.torn]

end Mode

/-- The tokens found so far, last first, and where the machine stands. -/
structure Scan where
  found : List Token := []
  mode : Mode := .between

def Scan.push (s : Scan) (c : Char) : Scan :=
  ⟨(s.mode.step c).1.reverse ++ s.found, (s.mode.step c).2⟩

/-- The tokens found by the end of the text. -/
def Scan.close (s : Scan) : List Token :=
  s.found.reverse ++ s.mode.finish

def tokens (text : String) : List Token :=
  (text.toList.foldl Scan.push {}).close

end Keyring.Json
