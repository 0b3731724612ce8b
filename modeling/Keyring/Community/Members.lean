import Keyring.Community.Basic

namespace Keyring

namespace Community

/-- What is known of a group before its record is made; what is missing follows from the keys. -/
structure Founding where
  groupId : String
  rank : UInt32
  keys : List Key
  parentGroupId : Option String := none
  keyUpdate : Bool := false
  createTime : Option UInt64 := none
  joinedTime : Option UInt64 := none

namespace Founding

def record (f : Founding) : Except Failure Group.Record := do
  let r := Group.Record.make f.groupId f.rank (← History.ofKeys f.keys)
  return { r with
    parentGroupId := f.parentGroupId
    keyUpdate := f.keyUpdate
    createTime := f.createTime.getD r.createTime
    joinedTime := f.joinedTime.getD r.joinedTime }

def events (f : Founding) : List Event :=
  (Signal.appended 0 f.keys).map .told

end Founding

def found (cm : Community) (member store : String) (f : Founding) (actor : Actor)
    (config : Config) : Except Failure Unit × List Event × Community :=
  match f.record with
  | .error e => (.error e, [], cm)
  | .ok record =>
    let (cm, h) := cm.addCell ⟨{ record, actor, config }, store⟩
    (.ok (), f.events, cm.assign member h)

/-- Founds a group for a member and enters it into the registry of its store. -/
def foundRegistered (cm : Community) (member store : String) (f : Founding) (actor : Actor) :
    Except Failure Unit × List Event × Community :=
  let h := cm.cells.length
  let (r, events, cm) := cm.found member store f actor cm.config
  match r with
  | .error e => (.error e, events, cm)
  | .ok () => (.ok (), events, cm.enter store f.groupId h)

def foundLone (cm : Community) (store : String) (f : Founding) (actor : Actor) (config : Config) :
    Except Failure Unit × List Event × Community :=
  match f.record with
  | .error e => (.error e, [], cm)
  | .ok record => (.ok (), f.events, { cm with lone := some ⟨{ record, actor, config }, store⟩ })

/-- Changes the rank and the update mark of the lone group. -/
def adjustLone (cm : Community) (rank : Option UInt32) (keyUpdate : Option Bool) : Community :=
  { cm with
    lone := cm.lone.map fun c =>
      let r := c.group.record
      { c with group := { c.group with record := { r with
        rank := rank.getD r.rank
        keyUpdate := keyUpdate.getD r.keyUpdate } } } }

def loadMember (cm : Community) (member store groupId : String) (actor : Actor) :
    Except Failure String × List Event × Community :=
  match cm.load store groupId actor with
  | (.finished (.ok g), events, cm) =>
    let (cm, h) := cm.addCell ⟨g, store⟩
    (.ok g.record.groupId, events, cm.assign member h)
  | (.finished (.error e), events, cm) => (.error e, events, cm)
  | (_, events, cm) => (.error (.store "not loaded"), events, cm)

/-- Opens a group for a member through the registry; tells whether the member had its handle
before, if the member had one at all. -/
def openMember (cm : Community) (member store groupId : String) (actor : Actor) :
    Except Failure (Option Bool) × List Event × Community :=
  let before := cm.handle? member
  match cm.openGroup store groupId actor with
  | (.ok h, events, cm) => (.ok (before.map (· == h)), events, cm.assign member h)
  | (.error e, events, cm) => (.error e, events, cm)

end Community

end Keyring
