import Keyring.History.Json

/-!
What a member keeps about a group, and its JSON form. Reading the form builds the key history on
the way, and tells of that history even when a fault behind it spoils the rest.
-/

namespace Keyring.Group

/-- What a member keeps about a group. -/
structure Record where
  groupId : String
  parentGroupId : Option String
  /-- The member's rank; a lower number means more rights. -/
  rank : UInt32
  /-- Whether a rotation that this member published is not yet finished. -/
  keyUpdate : Bool
  createTime : UInt64
  joinedTime : UInt64
  history : History

namespace Record

/-- A record of a group with an initial history; the group is as old as its first key. -/
def make (groupId : String) (rank : UInt32) (history : History) : Record :=
  let start := (history.keys.head?.map Key.time).getD 0
  { groupId, parentGroupId := none, rank, keyUpdate := false, createTime := start,
    joinedTime := start, history }

/-- Fails unless the member's rank is at most `required`. -/
def requireRank (r : Record) (action : String) (required : UInt32) : Except Failure Unit :=
  if r.rank ≤ required then .ok () else .error (.permissionDenied action r.rank required)

def fieldNames : List String :=
  ["group_id", "parent_group_id", "rank", "key_update", "create_time", "joined_time", "keys"]

def toJson (r : Record) : Json :=
  .record [
    ("group_id", .text r.groupId),
    ("parent_group_id", match r.parentGroupId with
      | some id => .text id
      | none => .null),
    ("rank", .natural r.rank.toNat),
    ("key_update", .bool r.keyUpdate),
    ("create_time", .natural r.createTime.toNat),
    ("joined_time", .natural r.joinedTime.toNat),
    ("keys", r.history.toJson)]

def save (r : Record) : String :=
  r.toJson.render

/-- The fields of a record that have been read. -/
structure Draft where
  groupId : Option String := none
  parentGroupId : Option String := none
  rank : Option UInt32 := none
  keyUpdate : Option Bool := none
  createTime : Option UInt64 := none
  joinedTime : Option UInt64 := none
  history : Option History := none

namespace Draft

def take (d : Draft) : String × Json → Except ReadError Draft
  | ("group_id", j) => do return { d with groupId := some (← j.asText) }
  | ("parent_group_id", j) => do return { d with parentGroupId := ← j.asOptionalText }
  | ("rank", j) => do return { d with rank := some (← j.asWord32) }
  | ("key_update", j) => do return { d with keyUpdate := some (← j.asBool) }
  | ("create_time", j) => do return { d with createTime := some (← j.asWord64) }
  | ("joined_time", j) => do return { d with joinedTime := some (← j.asWord64) }
  | ("keys", j) => do return { d with history := some (← History.ofJson j) }
  | _ => .ok d

/-- The record whose fields have all been read; only the parent may be missing. -/
def complete? (d : Draft) : Option Record := do
  return {
    groupId := ← d.groupId
    parentGroupId := d.parentGroupId
    rank := ← d.rank
    keyUpdate := ← d.keyUpdate
    createTime := ← d.createTime
    joinedTime := ← d.joinedTime
    history := ← d.history }

end Draft

/-- A record from JSON, and the history that was built for it. -/
def ofJson (j : Json) : Option History × Except ReadError Record :=
  let e := j.entries false fieldNames
  let (d, ending) := Json.feed Draft.take {} e.fields
  (d.history, do
    ending
    if e.whole then
      match d.complete? with
      | some r => .ok r
      | none => .error .malformed
    else .error .malformed)

/-- A record from its text, and the history that was built for it. -/
def restore (text : String) : Option History × Except Failure Record :=
  let d := Json.read text
  let (history, result) := ofJson d.value
  (history, match result with
    | .error e => .error (e.toFailure true)
    | .ok r => if d.complete then .ok r else .error (ReadError.malformed.toFailure true))

end Record

end Keyring.Group
