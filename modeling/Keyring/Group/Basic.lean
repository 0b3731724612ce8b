import Keyring.Actor
import Keyring.Config.Basic
import Keyring.Group.Record
import Keyring.Program.Basic

namespace Keyring

/-- A group: the record of it, the member who acts, the configuration, and where the member stands
in a rotation. -/
structure Group where
  record : Group.Record
  actor : Actor
  config : Config
  phase : Rotation.Phase := .idle

namespace Group

abbrev Action (α : Type) : Type :=
  Attempt Group α

def modifyRecord (f : Record → Record) : Action Unit := do
  let g ← Attempt.get
  Attempt.set { g with record := f g.record }

def setPhase (phase : Rotation.Phase) : Action Unit := do
  let g ← Attempt.get
  Attempt.set { g with phase }

/-- Adds keys to the history, and gives their number. -/
def append (keys : List Key) : Action Nat := do
  let g ← Attempt.get
  let history ← Attempt.settle (g.record.history.append keys)
  Attempt.tellAll (Signal.appended g.record.history.size keys)
  Attempt.set { g with record := { g.record with history } }
  return keys.length

end Group

end Keyring
