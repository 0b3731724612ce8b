import Keyring.Json.Fields
import Keyring.Text.Lowercase

namespace Keyring.Log

/-- How severe a log line is, from detail to failure. -/
inductive Level where
  | trace
  | debug
  | info
  | warn
  | error
  deriving DecidableEq, Repr, Inhabited

namespace Level

def all : List Level :=
  [trace, debug, info, warn, error]

def name : Level → String
  | trace => "trace"
  | debug => "debug"
  | info => "info"
  | warn => "warn"
  | error => "error"

def severity : Level → Nat
  | trace => 0
  | debug => 1
  | info => 2
  | warn => 3
  | error => 4

/-- Whether a line of this level shows at a threshold. -/
def shows (level threshold : Level) : Bool :=
  threshold.severity ≤ level.severity

def ofName? (s : String) : Option Level :=
  all.find? (·.name == s)

end Level

/-- Why logging cannot be set up. -/
inductive SetupError where
  | initializationFailed (detail : String)
  | unknownLevel (text : String)
  deriving DecidableEq, Repr

def SetupError.message : SetupError → String
  | .initializationFailed detail => "Failed to initialize logging: " ++ detail
  | .unknownLevel text => "Unknown log level: " ++ text

namespace Level

/-- Reads a level in any case; `warning` is another name of `warn`. -/
def parse (text : String) : Except SetupError Level :=
  let lowered := Text.lowercase text
  match ofName? lowered with
  | some level => .ok level
  | none => if lowered == "warning" then .ok .warn else .error (.unknownLevel text)

def toJson (level : Level) : Json :=
  .text level.name

def ofJson (j : Json) : Except ReadError Level := do
  match ofName? (← j.asChoice) with
  | some level => .ok level
  | none => .error .malformed

end Level

end Keyring.Log
