import Keyring.Group.Basic

namespace Keyring.Group

/-- The key under which the record of a group is stored. -/
def storeKey (space groupId : String) : String :=
  space ++ "_id_" ++ groupId

def Record.store {σ : Type} (r : Record) (space : String) : Attempt σ Unit := do
  let key := storeKey space r.groupId
  let text := r.save
  Attempt.notice (.recordSaved key r.history.size text.utf8ByteSize)
  Attempt.request (.writeStore key text)

/-- The stored record of a group, if there is one. -/
def Record.fetch? {σ : Type} (space groupId : String) : Attempt σ (Option Record) := do
  match ← Attempt.request (.readStore (storeKey space groupId)) with
  | none => return none
  | some text =>
    let (history, result) := Record.restore text
    match history with
    | some h => Attempt.tellAll (Signal.appended 0 h.keys)
    | none => pure ()
    return some (← Attempt.settle result)

def Record.load {σ : Type} (space groupId : String) : Attempt σ Record := do
  match ← Record.fetch? space groupId with
  | none => throw (.groupNotFound groupId)
  | some r =>
    Attempt.notice (.groupLoaded groupId r.history.size)
    return r

def load {σ : Type} (groupId : String) (actor : Actor) (config : Config) : Attempt σ Group := do
  return { record := ← Record.load config.store.space groupId, actor, config }

def persist : Action Unit := do
  let g ← Attempt.get
  g.record.store g.config.store.space

end Keyring.Group
