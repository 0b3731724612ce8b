import Keyring.Config.Basic
import Keyring.Log.Level

namespace Keyring.Log

/-- What a log shows, and in which form. -/
structure Settings where
  level : Level := .info
  withTimestamp : Bool := true
  withTarget : Bool := true
  asJson : Bool := false
  deriving DecidableEq, Repr

def Settings.ofSection (s : Config.LogSettings) : Except SetupError Settings := do
  return {
    level := ← Level.parse s.level
    withTimestamp := s.withTimestamp
    withTarget := s.withTarget
    asJson := s.asJson }

end Keyring.Log
