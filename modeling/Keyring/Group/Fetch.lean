import Keyring.Group.Storage

namespace Keyring.Group

/-- Fetches every key that is newer than the newest of the history and adds those that the history
does not have; gives the number of keys added. -/
def fetchNew (token : String) (threshold : UInt64) : Action Nat := do
  let g ← Attempt.get
  let groupId := g.record.groupId
  let cursor ← Attempt.settle g.record.history.cursor
  let gathered ← Attempt.gather { token, groupId, threshold, cursor }
  let fresh := gathered.filter fun k => !g.record.history.contains k.id
  if fresh.length < gathered.length then
    Attempt.notice (.knownKeysSkipped groupId (gathered.length - fresh.length))
  append fresh

/-- Fetches new keys, and stores the record if there were any. -/
def fetch : Action Nat := do
  let g ← Attempt.get
  let added ← fetchNew g.actor.token g.config.keys.fetchThreshold
  if 0 < added then
    persist
  return added

end Keyring.Group
