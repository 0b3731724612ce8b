import Keyring.Toml.Literal
import Keyring.Toml.Token

/-!
From tokens to statements, by a machine with a stack of open arrays and inline tables, and from
statements to the table of the document. A table is defined once: a header may not name a table
that a header, a dotted key or braces have made, and dotted keys add only to tables that dotted
keys of the same place have made.
-/

namespace Keyring.Toml

abbrev Entries := List (String × Toml)

/-- Changes the entries of the last table of an array of tables. -/
def changeLast? (f : Origin → Entries → Option Entries) : List Toml → Option (List Toml)
  | [.table origin es] => (f origin es).map fun es => [.table origin es]
  | t :: rest => (changeLast? f rest).map (t :: ·)
  | [] => none

/-- Changes the entries of a table, or of the last table of an array of tables. -/
def change? (dotted : Bool) (f : Origin → Entries → Option Entries) : Toml → Option Toml
  | .table .braces _ => none
  | .table .header es => if dotted then none else (f .header es).map (.table .header)
  | .table origin es => (f origin es).map (.table origin)
  | .tables items => (changeLast? f items).map .tables
  | _ => none

/-- Changes the entries of the table under a key, which is made if it is missing: by a dotted key
or by the path of a header. -/
def enter? (dotted : Bool) (key : String) (f : Origin → Entries → Option Entries) :
    Entries → Option Entries
  | [] =>
    let origin := if dotted then Origin.dotted else .implied
    (f origin []).map fun es => [(key, .table origin es)]
  | (k, v) :: rest =>
    if k = key then (change? dotted f v).map fun v => (k, v) :: rest
    else (enter? dotted key f rest).map ((k, v) :: ·)

/-- Changes the entries at the end of a path. -/
def along? (dotted : Bool) (f : Origin → Entries → Option Entries) :
    List String → Origin → Entries → Option Entries
  | [], origin, es => f origin es
  | key :: path, _, es => enter? dotted key (along? dotted f path) es

def add? (key : String) (v : Toml) (es : Entries) : Option Entries :=
  if es.any (·.1 == key) then none else some (es ++ [(key, v)])

/-- Adds a value under a dotted key to a table. -/
def insert? (path : List String) (v : Toml) (origin : Origin) (es : Entries) : Option Entries :=
  match path.reverse with
  | [] => none
  | key :: up =>
    let place (o : Origin) (es : Entries) : Option Entries :=
      if (o == .dotted) == !up.isEmpty then add? key v es else none
    along? true place up.reverse origin es

/-- Makes the table under a key a table with a header. -/
def head? (key : String) : Entries → Option Entries
  | [] => some [(key, .table .header [])]
  | (k, v) :: rest =>
    if k = key then
      match v with
      | .table .implied es => some ((k, .table .header es) :: rest)
      | _ => none
    else (head? key rest).map ((k, v) :: ·)

/-- Adds a table to the array of tables under a key. -/
def headNext? (key : String) : Entries → Option Entries
  | [] => some [(key, .tables [.table .header []])]
  | (k, v) :: rest =>
    if k = key then
      match v with
      | .tables items => some ((k, .tables (items ++ [.table .header []])) :: rest)
      | _ => none
    else (headNext? key rest).map ((k, v) :: ·)

/-- A statement of a document. -/
inductive Statement where
  | pair (path : List String) (v : Toml)
  | header (path : List String)
  /-- A header in double brackets. -/
  | nextHeader (path : List String)

/-- A document in the making: its entries, and the path of the table that pairs go to. -/
structure Draft where
  entries : Entries := []
  current : List String := []

def Draft.open? (d : Draft) (path : List String) (f : String → Entries → Option Entries) :
    Option Draft :=
  match path.reverse with
  | [] => none
  | key :: up => do
    let es ← along? false (fun _ es => f key es) up.reverse .header d.entries
    return ⟨es, path⟩

def Draft.take (d : Draft) : Statement → Option Draft
  | .pair path v => do
    return { d with entries := ← along? false (insert? path v) d.current .header d.entries }
  | .header path => d.open? path head?
  | .nextHeader path => d.open? path headNext?

/-- An array or inline table that is still open. -/
inductive Frame where
  /-- An array, with its items so far, last first. -/
  | items (done : List Toml)
  /-- An inline table, with its entries so far, and the path of the pair that is open. -/
  | pairs (done : Entries) (path : List String)

/-- What a key belongs to. -/
inductive KeyUse where
  | header
  | nextHeader
  /-- A pair on a line of its own. -/
  | line
  /-- A pair of an inline table, with the entries before it. -/
  | inline (done : Entries)

/-- What the machine waits for. -/
inductive Place where
  /-- A statement. -/
  | statement
  /-- What follows the first bracket of a header. -/
  | bracket
  /-- The next part of a key, with the parts so far, last first; `orEnd` where an inline table may
  end instead. -/
  | part (use : KeyUse) (path : List String) (orEnd : Bool)
  /-- What follows a part of a key. -/
  | afterPart (use : KeyUse) (path : List String)
  /-- The second closing bracket of a header. -/
  | bracketEnd (path : List String)
  /-- A value, or the end of an array. -/
  | value (orEnd : Bool)
  /-- More of a literal, with its characters so far, last first. -/
  | literal (seen : List Char)
  /-- What may follow a value; `date` if it is a date that ends in one space. -/
  | after (v : Toml) (date : Option (List Char))
  /-- The end of the line. -/
  | lineEnd

/-- How deep arrays, inline tables and dotted keys may go. -/
def depthLimit : Nat := 80

/-- The machine: its place, the open frames, the path of the pair on a line of its own, and the
statements so far, last first. -/
structure Parse where
  place : Place := .statement
  frames : List Frame := []
  path : List String := []
  done : List Statement := []

namespace Parse

def goto (p : Parse) (place : Place) : Option Parse :=
  some { p with place }

/-- Whether line breaks are blanks here. -/
def inArray (p : Parse) : Bool :=
  match p.frames with
  | .items _ :: _ => true
  | _ => false

def openFrame (p : Parse) (f : Frame) (place : Place) : Option Parse :=
  if p.frames.length + 1 < depthLimit then some { p with frames := f :: p.frames, place } else none

def takePart (p : Parse) (use : KeyUse) (path : List String) (s : String) : Option Parse :=
  if path.length + 1 < depthLimit then p.goto (.afterPart use (s :: path)) else none

/-- Whether a run of characters is a bare part of a key. -/
def isBare (cs : List Char) : Bool :=
  cs.all fun c => c ≠ '+' && c ≠ ':'

def takeKey (p : Parse) (use : KeyUse) (path : List String) : Option Parse :=
  match use with
  | .line => some { p with path := path.reverse, place := .value false }
  | .inline done =>
    some { p with frames := .pairs done path.reverse :: p.frames, place := .value false }
  | _ => none

def afterValue (p : Parse) (v : Toml) (t : Token) : Option Parse :=
  match t, p.frames with
  | .gap _, _ => p.goto (.after v none)
  | .newline, [] =>
    some { p with done := .pair p.path v :: p.done, place := .statement }
  | .newline, .items _ :: _ => p.goto (.after v none)
  | .mark ',', .items done :: rest =>
    some { p with frames := .items (v :: done) :: rest, place := .value true }
  | .mark ']', .items done :: rest =>
    some { p with frames := rest, place := .after (.array (v :: done).reverse) none }
  | .mark ',', .pairs done path :: rest => do
    let es ← insert? path v .braces done
    return { p with frames := rest, place := .part (.inline es) [] false }
  | .mark '\x7d', .pairs done path :: rest => do
    let es ← insert? path v .braces done
    return { p with frames := rest, place := .after (.table .braces es) none }
  | _, _ => none

/-- Completes a literal before a token that begins something else. -/
def endLiteral (p : Parse) (seen : List Char) (t : Token) : Option Parse := do
  let cs := seen.reverse
  let v ← ofLiteral? cs
  if t = .gap true && isDate cs then p.goto (.after v (some cs)) else p.afterValue v t

def push (p : Parse) (t : Token) : Option Parse :=
  match p.place with
  | .statement =>
    match t with
    | .gap _ => some p
    | .newline => some p
    | .mark '[' => p.goto .bracket
    | .word cs => if isBare cs then p.takePart .line [] (String.ofList cs) else none
    | .quoted s => p.takePart .line [] s
    | _ => none
  | .bracket =>
    match t with
    | .gap _ => p.goto (.part .header [] false)
    | .mark '[' => p.goto (.part .nextHeader [] false)
    | .word cs => if isBare cs then p.takePart .header [] (String.ofList cs) else none
    | .quoted s => p.takePart .header [] s
    | _ => none
  | .part use path orEnd =>
    match t with
    | .gap _ => some p
    | .word cs => if isBare cs then p.takePart use path (String.ofList cs) else none
    | .quoted s => p.takePart use path s
    | .mark '\x7d' => if orEnd then p.goto (.after (.table .braces []) none) else none
    | _ => none
  | .afterPart use path =>
    match t with
    | .gap _ => some p
    | .mark '.' => p.goto (.part use path false)
    | .mark '=' => p.takeKey use path
    | .mark ']' =>
      match use with
      | .header => some { p with done := .header path.reverse :: p.done, place := .lineEnd }
      | .nextHeader => p.goto (.bracketEnd path.reverse)
      | _ => none
    | _ => none
  | .bracketEnd path =>
    match t with
    | .mark ']' => some { p with done := .nextHeader path :: p.done, place := .lineEnd }
    | _ => none
  | .value orEnd =>
    match t with
    | .gap _ => some p
    | .newline => if p.inArray then some p else none
    | .word cs => p.goto (.literal cs.reverse)
    | .mark '.' => p.goto (.literal ['.'])
    | .quoted s => p.goto (.after (.text s) none)
    | .block s => p.goto (.after (.text s) none)
    | .mark '[' => p.openFrame (.items []) (.value true)
    | .mark '\x7b' =>
      if p.frames.length + 1 < depthLimit then p.goto (.part (.inline []) [] true) else none
    | .mark ']' =>
      match orEnd, p.frames with
      | true, .items done :: rest =>
        some { p with frames := rest, place := .after (.array done.reverse) none }
      | _, _ => none
    | _ => none
  | .literal seen =>
    match t with
    | .word cs => p.goto (.literal (cs.reverse ++ seen))
    | .mark '.' => p.goto (.literal ('.' :: seen))
    | t => p.endLiteral seen t
  | .after v date =>
    match date, t with
    | some cs, .word more => p.goto (.literal (more.reverse ++ ' ' :: cs.reverse))
    | _, t => p.afterValue v t
  | .lineEnd =>
    match t with
    | .gap _ => some p
    | .newline => p.goto .statement
    | _ => none

/-- The statements at the end of the document, where a line need not be ended. -/
def close (p : Parse) : Option (List Statement) := do
  let p ← match p.place with
    | .literal _ | .after .. => p.push .newline
    | _ => some p
  match p.place with
  | .statement | .lineEnd => return p.done.reverse
  | _ => none

end Parse

def statements? (ts : List Token) : Option (List Statement) := do
  (← ts.foldlM Parse.push {}).close

def read? (text : String) : Option Entries := do
  let d ← (← statements? (← tokens text)).foldlM Draft.take {}
  return d.entries

end Keyring.Toml
