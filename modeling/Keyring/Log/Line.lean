import Keyring.Json.Printer
import Keyring.Log.Notice
import Keyring.Log.Settings
import Keyring.Text.Quoted

namespace Keyring.Log

namespace Level

/-- The name of a level as lines show it. -/
def title : Level → String
  | trace => "TRACE"
  | debug => "DEBUG"
  | info => "INFO"
  | warn => "WARN"
  | error => "ERROR"

end Level

namespace Field

def text : Field → String
  | number n => Decimal.render n
  | flag b => if b then "true" else "false"
  | plain s => s
  | quoted s => Text.quote s

def toJson : Field → Json
  | number n => .natural n
  | flag b => .bool b
  | plain s => .text s
  | quoted s => .text s

end Field

/-- A text with blanks before it up to a width. -/
def padLeft (width : Nat) (s : String) : String :=
  String.ofList (List.replicate (width - s.length) ' ') ++ s

namespace Notice

def plainLine (withTarget : Bool) (n : Notice) : String :=
  padLeft 5 n.level.title ++ " " ++ (if withTarget then n.target ++ ": " else "") ++ n.message ++
    "".intercalate (n.fields.map fun (name, f) => " " ++ name ++ "=" ++ f.text)

def jsonLine (withTarget : Bool) (n : Notice) : String :=
  let fields := ("message", .text n.message) :: n.fields.map fun (name, f) => (name, f.toJson)
  let target := if withTarget then [("target", Json.text n.target)] else []
  (Json.record ([("level", .text n.level.title), ("fields", .record fields)] ++ target)).render

end Notice

/-- The line of a notice, if the settings show it. -/
def Settings.line? (s : Settings) (n : Notice) : Option String :=
  if n.level.shows s.level then
    some (if s.asJson then n.jsonLine s.withTarget else n.plainLine s.withTarget)
  else none

end Keyring.Log
