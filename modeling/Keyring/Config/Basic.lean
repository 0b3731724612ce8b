import Keyring.Duration.Basic
import Keyring.Page.Boundary

namespace Keyring

namespace Config

/-- How keys are sent and fetched. -/
structure Paging where
  /-- The number of keys on a page. -/
  pageSize : UInt64 := 50
  /-- A fetched batch of more keys than this means that the server has more. -/
  fetchThreshold : UInt64 := 50
  boundary : Page.Boundary := .compat
  deriving DecidableEq, Repr

/-- How long a finish run goes on. -/
structure FinishLimits where
  maxRounds : UInt32 := 10
  timeout : Duration := .seconds 30
  deriving DecidableEq, Repr

/-- The highest rank that may do each thing. -/
structure RankLimits where
  invite : UInt32 := 2
  joinRequests : UInt32 := 2
  rotation : UInt32 := 1
  deriving DecidableEq, Repr

structure StoreSettings where
  /-- What the keys of stored records begin with. -/
  space : String := "group_data"
  deriving DecidableEq, Repr

structure LogSettings where
  level : String := "info"
  asJson : Bool := false
  withTimestamp : Bool := true
  withTarget : Bool := true
  deriving DecidableEq, Repr

end Config

/-- A configuration. -/
structure Config where
  keys : Config.Paging := {}
  rotation : Config.FinishLimits := {}
  ranks : Config.RankLimits := {}
  store : Config.StoreSettings := {}
  logging : Config.LogSettings := {}
  deriving DecidableEq, Repr

namespace Config

/-- What is wrong with a configuration. -/
inductive Fault where
  | fileRead (detail : String)
  | fileWrite (detail : String)
  | syntaxError (detail : String)
  | unwritable (detail : String)
  | invalidValue (detail : String)
  | invalid (detail : String)
  deriving DecidableEq, Repr

def Fault.message : Fault → String
  | .fileRead detail => "Failed to read configuration file: " ++ detail
  | .fileWrite detail => "Failed to write configuration file: " ++ detail
  | .syntaxError detail => "Failed to parse configuration: " ++ detail
  | .unwritable detail => "Failed to serialize configuration: " ++ detail
  | .invalidValue detail => "Invalid configuration value: " ++ detail
  | .invalid detail => "Configuration validation failed: " ++ detail

def levelNames : List String :=
  ["trace", "debug", "info", "warn", "error"]

/-- What a valid configuration satisfies, each with the complaint about one that does not. -/
def requirements (c : Config) : List (Bool × String) := [
  (c.keys.pageSize ≠ 0, "page_size must be greater than 0"),
  (c.keys.fetchThreshold ≠ 0, "fetch_batch_threshold must be greater than 0"),
  (c.rotation.maxRounds ≠ 0, "max_rounds must be greater than 0"),
  (c.rotation.timeout.nanoseconds ≠ 0, "finish_timeout must be greater than 0"),
  (c.store.space ≠ "", "store namespace is empty"),
  (levelNames.contains c.logging.level, "Invalid log level: " ++ c.logging.level)]

def validate (c : Config) : Except Fault Unit :=
  match c.requirements.find? (!·.1) with
  | none => .ok ()
  | some (_, complaint) => .error (.invalid complaint)

end Config

end Keyring
