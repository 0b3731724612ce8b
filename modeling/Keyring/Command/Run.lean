import Keyring.Command.Arguments
import Keyring.Command.PagePlan
import Keyring.Command.Simulation
import Keyring.Config.Environment
import Keyring.Config.File
import Keyring.Config.Json
import Keyring.Log.Line

namespace Keyring

namespace Command

/-- What the command line finds around it. -/
structure Host where
  file : String → Config.Content
  environment : Config.Environment
  /-- What is said of a text that is no duration. -/
  wording : String → String
  /-- Whether log lines are left out. -/
  quiet : Bool := false

/-- What the command line gives back. -/
structure Report where
  code : Nat := 0
  out : String := ""
  err : String := ""
  deriving DecidableEq, Repr

/-- A complaint, and what it happened at. -/
structure Complaint where
  text : String
  context : Option String := none

/-- A text whose lines after the first are indented. -/
def indented (s : String) : String :=
  String.ofList (s.toList.flatMap fun c => if c = '\n' then ['\n', ' ', ' ', ' ', ' '] else [c])

def Complaint.render (c : Complaint) : String :=
  match c.context with
  | none => "Error: " ++ c.text ++ "\n"
  | some context => "Error: " ++ context ++ "\n\nCaused by:\n    " ++ indented c.text ++ "\n"

/-- What a command has written before it ended, and the complaint that ended it, if any. -/
structure Output where
  out : List String := []
  complaint : Option Complaint := none

/-- The configuration of a file if there is one, with the overrides of the environment. -/
def loadConfig (host : Host) (path : Option String) : Except Complaint Config := do
  let start ← match path with
    | none => pure {}
    | some p => (Config.load (host.file p)).mapError fun e => ⟨e.message, some ("loading " ++ p)⟩
  let c ← (Config.applyEnvironment host.wording host.environment start).mapError
    fun e => ⟨e.message, none⟩
  c.validate.mapError fun e => ⟨e.message, none⟩
  return c

/-- The settings of the log, and a warning about a level that is not known. -/
def logSettings (args : Arguments) (config : Config) :
    Except Complaint (Log.Settings × String) := do
  let s ← (Log.Settings.ofSection config.logging).mapError fun e => ⟨e.message, none⟩
  let s := if args.jsonLogs then { s with asJson := true } else s
  match args.logLevel with
  | none => return (s, "")
  | some text =>
    match Log.Level.parse text with
    | .ok level => return ({ s with level }, "")
    | .error _ =>
      return (s, "Invalid log level '" ++ text ++ "', using '" ++ s.level.name ++ "'\n")

def logLines (quiet : Bool) (s : Log.Settings) (signals : List Signal) : List String :=
  if quiet then []
  else ((signals.filterMap Signal.notice?).filterMap s.line?).map (· ++ "\n")

def perform (config : Config) (log : List Signal → List String) : Option Command → Output
  | none => { out := log [.notice .noCommand] }
  | some .checkConfig =>
    { out := (config.toJson.pretty ++ "\n") :: log [.notice .configurationValid] }
  | some (.pagePlan keys pageSize inclusive) =>
    let size := pageSize.getD config.keys.pageSize
    if hs : size = 0 then { complaint := some ⟨"page size must be positive", none⟩ }
    else
      let boundary := if inclusive then .inclusive else config.keys.boundary
      { out := [(PagePlan.toJson keys size boundary hs).pretty ++ "\n"] }
  | some (.simulateRotation pending missing lagging strict) =>
    match Simulation.group config with
    | .error e => { complaint := some ⟨e.message, none⟩ }
    | .ok g =>
      let r := Simulation.run g pending.toNat missing.toNat lagging.toNat
      let before := log (Simulation.preparation ++
        .notice (.simulationStarted pending.toNat missing.toNat lagging.toNat) ::
          r.trace.filterMap Event.signal?)
      match r.ending with
      | .finished (.ok outcome) =>
        let after :=
          if outcome.isComplete then []
          else log [.notice (.simulationIncomplete outcome.unresolved.length)]
        let complaint := match outcome.ensureComplete with
          | .ok _ => none
          | .error e => if strict then some ⟨e.message, none⟩ else none
        { out := before ++ ((Simulation.toJson outcome r).pretty ++ "\n") :: after, complaint }
      | .finished (.error e) => { out := before, complaint := some ⟨e.message, none⟩ }
      | _ => { out := before, complaint := some ⟨"the simulation did not end", none⟩ }

def run (host : Host) (tokens : List String) : Report :=
  match Arguments.parse tokens with
  | .error .usage => { code := 2, err := "error: unexpected arguments\n\n" ++ Arguments.help }
  | .error .help => { out := Arguments.help }
  | .error .version => { out := "groupkey 0.1.0\n" }
  | .ok args =>
    match loadConfig host args.configPath with
    | .error c => { code := 1, err := c.render }
    | .ok config =>
      match logSettings args config with
      | .error c => { code := 1, err := c.render }
      | .ok (settings, warning) =>
        let result := perform config (logLines host.quiet settings) args.command
        let out := "".intercalate result.out
        match result.complaint with
        | none => { out, err := warning }
        | some c => { code := 1, out, err := warning ++ c.render }

end Command

end Keyring
