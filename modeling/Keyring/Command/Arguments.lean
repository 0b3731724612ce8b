import Keyring.Text.Decimal

namespace Keyring

/-- What the command line can be asked to do. -/
inductive Command where
  /-- Show the configuration. -/
  | checkConfig
  /-- Show how a history of a number of keys is divided into pages. -/
  | pagePlan (keys : UInt64) (pageSize : Option UInt64) (inclusive : Bool)
  /-- Finish a simulated rotation. -/
  | simulateRotation (pending missing lagging : UInt64) (strict : Bool)
  deriving DecidableEq, Repr

/-- The arguments of the command line. -/
structure Arguments where
  logLevel : Option String := none
  jsonLogs : Bool := false
  configPath : Option String := none
  command : Option Command := none
  deriving DecidableEq, Repr

namespace Arguments

/-- Why arguments ask for nothing that can be done. -/
inductive Refusal where
  | usage
  | help
  | version
  deriving DecidableEq, Repr

/-- An option. -/
structure Choice where
  /-- Its name, with two dashes before it. -/
  name : String
  /-- Its letter, with one dash before it. -/
  letter : Option Char := none
  /-- What its value must satisfy, if it has one. -/
  value : Option (String → Bool) := none

/-- The options that were given, each with its value; the value of a flag is empty. -/
abbrev Given := List (String × String)

namespace Choice

def isCount (s : String) : Bool :=
  match Decimal.parse64 s with
  | .ok _ => true
  | .error _ => false

def general : List Choice := [
  { name := "log-level", letter := some 'l', value := some fun _ => true },
  { name := "json-logs" },
  { name := "config", letter := some 'c', value := some (· ≠ "") },
  { name := "version", letter := some 'V' }]

def pagePlan : List Choice := [
  { name := "keys", letter := some 'k', value := some isCount },
  { name := "page-size", value := some isCount },
  { name := "inclusive" }]

def simulateRotation : List Choice := [
  { name := "pending", value := some isCount },
  { name := "missing", value := some isCount },
  { name := "lagging", value := some isCount },
  { name := "strict" }]

/-- Records that an option is given, which may happen once. -/
def give (c : Choice) (value : String) (given : Given) : Except Refusal Given :=
  if c.name = "version" then .error .version
  else if given.any (·.1 == c.name) then .error .usage
  else match c.value with
    | some accepts => if accepts value then .ok ((c.name, value) :: given) else .error .usage
    | none => .ok ((c.name, "") :: given)

end Choice

/-- What a token in front of the command is. -/
inductive Token where
  /-- An option whose value, if it has one, comes next. -/
  | bare (c : Choice)
  | valued (c : Choice) (value : String)
  | help
  | unknown

/-- An option by its name, which a value may follow after `=`. -/
def named (choices : List Choice) (cs : List Char) : Token :=
  let name := String.ofList (cs.takeWhile (· ≠ '='))
  match choices.find? (·.name == name), cs.dropWhile (· ≠ '=') with
  | some c, [] => .bare c
  | some c, _ :: value => if c.value.isSome then .valued c (String.ofList value) else .unknown
  | none, rest => if name = "help" ∧ rest = [] then .help else .unknown

/-- An option by its letter, which a value may follow at once or after `=`. -/
def lettered (choices : List Choice) (letter : Char) (rest : List Char) : Token :=
  match choices.find? (·.letter == some letter) with
  | some c =>
    match c.value, rest with
    | _, [] => .bare c
    | some _, '=' :: value => .valued c (String.ofList value)
    | some _, value => .valued c (String.ofList value)
    | none, _ => if c.name = "version" then .bare c else .unknown
  | none => if letter = 'h' then .help else .unknown

/-- Reads options up to a command or the end. `waiting` is an option whose value comes next. -/
def options (choices : List Choice) (isCommand : String → Bool) :
    (waiting : Option Choice) → Given → List String → Except Refusal (Given × List String)
  | none, given, [] => .ok (given, [])
  | some _, _, [] => .error .usage
  | some c, given, t :: rest =>
    if t = "-" ∨ t.toList.head? ≠ some '-' then do
      options choices isCommand none (← c.give t given) rest
    else .error .usage
  | none, given, t :: rest =>
    let token : Option Token := match t.toList with
      | '-' :: '-' :: [] => if rest.isEmpty then none else some .unknown
      | '-' :: '-' :: cs => some (named choices cs)
      | '-' :: letter :: cs => some (lettered choices letter cs)
      | _ => if isCommand t then none else some .unknown
    match token with
    | none => .ok (given, if t = "--" then [] else t :: rest)
    | some (.bare c) =>
      if c.value.isSome then options choices isCommand (some c) given rest
      else do options choices isCommand none (← c.give "" given) rest
    | some (.valued c value) => do options choices isCommand none (← c.give value given) rest
    | some .help => .error .help
    | some .unknown => .error .usage

def count? (given : Given) (name : String) : Option UInt64 :=
  (given.lookup name).bind fun s => (Decimal.parse64 s).toOption

def isSet (given : Given) (name : String) : Bool :=
  given.any (·.1 == name)

/-- The options of a command, behind which nothing may stand. -/
def commandOptions (choices : List Choice) (tokens : List String) : Except Refusal Given := do
  return (← options choices (fun _ => false) none [] tokens).1

def commandNames : List String :=
  ["check-config", "page-plan", "simulate-rotation", "help"]

/-- The command with a name, and its options. The command `help` takes at most one name. -/
def readCommand (name : String) (tokens : List String) : Except Refusal Command := do
  match name with
  | "check-config" =>
    let _ ← commandOptions [] tokens
    return .checkConfig
  | "page-plan" =>
    let given ← commandOptions Choice.pagePlan tokens
    match count? given "keys" with
    | some keys => return .pagePlan keys (count? given "page-size") (isSet given "inclusive")
    | none => throw .usage
  | "simulate-rotation" =>
    let given ← commandOptions Choice.simulateRotation tokens
    return .simulateRotation ((count? given "pending").getD 3) ((count? given "missing").getD 0)
      ((count? given "lagging").getD 0) (isSet given "strict")
  | _ => throw (if tokens.length ≤ 1 ∧ tokens.all commandNames.contains then .help else .usage)

def parse (tokens : List String) : Except Refusal Arguments := do
  let (given, rest) ← options Choice.general commandNames.contains none [] tokens
  let command ← match rest with
    | [] => pure none
    | name :: rest => some <$> readCommand name rest
  return {
    logLevel := given.lookup "log-level"
    jsonLogs := isSet given "json-logs"
    configPath := given.lookup "config"
    command }

def help : String :=
  "Usage: groupkey [-l LEVEL] [--json-logs] [-c FILE] [COMMAND]\n\n" ++
  "Commands:\n" ++
  "  check-config\n" ++
  "  page-plan -k KEYS [--page-size SIZE] [--inclusive]\n" ++
  "  simulate-rotation [--pending N] [--missing N] [--lagging N] [--strict]\n" ++
  "  help\n"

end Arguments

end Keyring
