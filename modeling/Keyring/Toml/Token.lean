import Keyring.Text.Hex

namespace Keyring.Toml

/-- A token of a TOML document. -/
inductive Token where
  /-- Blanks within a line; `single` if they are one space. -/
  | gap (single : Bool)
  | newline
  /-- A run of the characters of bare keys, numbers and times. -/
  | word (chars : List Char)
  /-- One of `.`, `=`, `,`, brackets and braces. -/
  | mark (c : Char)
  /-- A string within a line. -/
  | quoted (text : String)
  /-- A string that may span lines. -/
  | block (text : String)
  deriving DecidableEq, Repr

/-- The two ways to quote. -/
inductive Quote where
  /-- With escapes. -/
  | basic
  | literal
  deriving DecidableEq, Repr

def Quote.char : Quote → Char
  | .basic => '"'
  | .literal => '\''

/-- A string that is still open. -/
structure Open where
  quote : Quote
  /-- Whether it may span lines. -/
  block : Bool
  /-- Its characters so far, last first. -/
  chars : List Char := []
  deriving DecidableEq, Repr

namespace Open

def push (o : Open) (c : Char) : Open :=
  { o with chars := c :: o.chars }

def pushQuotes (o : Open) (n : Nat) : Open :=
  { o with chars := List.replicate n o.quote.char ++ o.chars }

def text (o : Open) : String :=
  String.ofList o.chars.reverse

def token (o : Open) : Token :=
  if o.block then .block o.text else .quoted o.text

end Open

/-- Where the machine stands between two characters. -/
inductive Mode where
  | between
  /-- In blanks within a line. -/
  | gap (single : Bool)
  /-- After a carriage return, which a line feed must follow. -/
  | lineEnd
  | comment
  /-- In a word, with its characters so far, last first. -/
  | word (seen : List Char)
  /-- After one or two quotes that open a string. -/
  | opening (quote : Quote) (second : Bool)
  /-- At the first character of a block, where a line break does not count. -/
  | blockStart (quote : Quote)
  /-- After a carriage return there. -/
  | blockStartEnd (quote : Quote)
  /-- In a string, after a number of quotes that may close it. -/
  | inside (o : Open) (quotes : Nat)
  /-- In a block, after a carriage return. -/
  | blockLineEnd (o : Open)
  | escaped (o : Open)
  /-- In an escape by code point, with the count of digits to come and the value so far. -/
  | unit (o : Open) (left value : Nat)
  /-- After a backslash that joins lines. -/
  | joining (o : Open) (broken : Bool)
  /-- Joining lines, after a carriage return. -/
  | joiningEnd (o : Open)
  deriving DecidableEq, Repr

def isWordChar (c : Char) : Bool :=
  ('a' ≤ c && c ≤ 'z') || ('A' ≤ c && c ≤ 'Z') || ('0' ≤ c && c ≤ '9') || c == '_' || c == '-' ||
    c == '+' || c == ':'

/-- Whether a character can stand in comments and, for what a string gives to it no meaning of its
own, in strings. -/
def isPlain (c : Char) : Bool :=
  c == '\t' || (0x20 ≤ c.toNat && c.toNat ≠ 0x7F)

def unescape : Char → Option Char
  | 'b' => some '\x08'
  | 't' => some '\t'
  | 'n' => some '\n'
  | 'f' => some '\x0c'
  | 'r' => some '\r'
  | '"' => some '"'
  | '\\' => some '\\'
  | _ => none

def charOf? (n : Nat) : Option Char :=
  if n.isValidChar then some (Char.ofNat n) else none

def enter (c : Char) : Option (List Token × Mode) :=
  if c = ' ' then some ([], .gap true)
  else if c = '\t' then some ([], .gap false)
  else if c = '\n' then some ([.newline], .between)
  else if c = '\r' then some ([], .lineEnd)
  else if c = '#' then some ([], .comment)
  else if c = '"' then some ([], .opening .basic false)
  else if c = '\'' then some ([], .opening .literal false)
  else if c = '.' ∨ c = '=' ∨ c = ',' ∨ c = '[' ∨ c = ']' ∨ c = '\x7b' ∨ c = '\x7d' then
    some ([.mark c], .between)
  else if isWordChar c then some ([], .word [c])
  else none

/-- Completes a token before a character that begins something else. -/
def complete (t : Token) (c : Char) : Option (List Token × Mode) :=
  (enter c).map fun r => (t :: r.1, r.2)

/-- A character inside a string, where no quote stands before it. -/
def insideStep (o : Open) (c : Char) : Option (List Token × Mode) :=
  if c = '\\' ∧ o.quote = .basic then some ([], .escaped o)
  else if c = '\n' ∧ o.block then some ([], .inside (o.push '\n') 0)
  else if c = '\r' ∧ o.block then some ([], .blockLineEnd o)
  else if isPlain c then some ([], .inside (o.push c) 0)
  else none

/-- A character at the start of a block, or after a line break that begins it. -/
def blockStep (o : Open) (c : Char) : Option (List Token × Mode) :=
  if c = o.quote.char then some ([], .inside o 1) else insideStep o c

namespace Mode

/-- The tokens that a character completes, and where the machine goes. -/
def step : Mode → Char → Option (List Token × Mode)
  | .between, c => enter c
  | .gap single, c =>
    if c = ' ' ∨ c = '\t' then some ([], .gap false) else complete (.gap single) c
  | .lineEnd, c => if c = '\n' then some ([.newline], .between) else none
  | .comment, c =>
    if c = '\n' then some ([.newline], .between)
    else if c = '\r' then some ([], .lineEnd)
    else if isPlain c then some ([], .comment)
    else none
  | .word seen, c =>
    if isWordChar c then some ([], .word (c :: seen)) else complete (.word seen.reverse) c
  | .opening q false, c =>
    if c = q.char then some ([], .opening q true) else insideStep ⟨q, false, []⟩ c
  | .opening q true, c =>
    if c = q.char then some ([], .blockStart q) else complete (.quoted "") c
  | .blockStart q, c =>
    if c = '\n' then some ([], .inside ⟨q, true, []⟩ 0)
    else if c = '\r' then some ([], .blockStartEnd q)
    else blockStep ⟨q, true, []⟩ c
  | .blockStartEnd q, c => if c = '\n' then some ([], .inside ⟨q, true, []⟩ 0) else none
  | .inside o quotes, c =>
    if c = o.quote.char then
      if !o.block then some ([o.token], .between)
      else if quotes = 4 then some ([(o.pushQuotes 2).token], .between)
      else some ([], .inside o (quotes + 1))
    else if quotes < 3 then insideStep (o.pushQuotes quotes) c
    else complete (o.pushQuotes (quotes - 3)).token c
  | .blockLineEnd o, c => if c = '\n' then some ([], .inside (o.push '\n') 0) else none
  | .escaped o, c =>
    if c = 'u' then some ([], .unit o 4 0)
    else if c = 'U' then some ([], .unit o 8 0)
    else if o.block ∧ (c = ' ' ∨ c = '\t') then some ([], .joining o false)
    else if o.block ∧ c = '\n' then some ([], .joining o true)
    else if o.block ∧ c = '\r' then some ([], .joiningEnd o)
    else (unescape c).map fun d => ([], .inside (o.push d) 0)
  | .unit o left value, c => do
    let n := 16 * value + (← Hex.digit? c)
    if left = 1 then return ([], .inside (o.push (← charOf? n)) 0)
    else return ([], .unit o (left - 1) n)
  | .joining o broken, c =>
    if c = ' ' ∨ c = '\t' then some ([], .joining o broken)
    else if c = '\n' then some ([], .joining o true)
    else if c = '\r' then some ([], .joiningEnd o)
    else if broken then blockStep o c
    else none
  | .joiningEnd o, c => if c = '\n' then some ([], .joining o true) else none

/-- The token that the end of the text completes. -/
def finish : Mode → Option (List Token)
  | .between => some []
  | .gap single => some [.gap single]
  | .comment => some []
  | .word seen => some [.word seen.reverse]
  | .opening _ true => some [.quoted ""]
  | .inside o quotes => if 3 ≤ quotes then some [(o.pushQuotes (quotes - 3)).token] else none
  | _ => none

end Mode

/-- The tokens found so far, last first, and where the machine stands. -/
structure Scan where
  found : List Token := []
  mode : Mode := .between

def Scan.push (s : Scan) (c : Char) : Option Scan := do
  let (ts, mode) ← s.mode.step c
  return ⟨ts.reverse ++ s.found, mode⟩

/-- The tokens found by the end of the text. -/
def Scan.close (s : Scan) : Option (List Token) := do
  return s.found.reverse ++ (← s.mode.finish)

/-- A text without a byte order mark at its start. -/
def withoutMark : List Char → List Char
  | '\ufeff' :: cs => cs
  | cs => cs

def tokens (text : String) : Option (List Token) := do
  (← (withoutMark text.toList).foldlM Scan.push {}).close

end Keyring.Toml
