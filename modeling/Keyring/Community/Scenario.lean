import Keyring.Community.Members

namespace Keyring

namespace Scenario

inductive Deed : Type 1 where
  | operation {α : Type} (op : Group.Operation α)
  /-- An operation that is dropped after some time. -/
  | dropped {α : Type} (limit : Duration) (op : Group.Operation α)
  | fetchNew (token : String) (threshold : UInt64)
  | transfer (paging : Config.Paging) (kind : Transfer.Kind) (recipient recipientKey : String)
  | append (keys : List Key)
  | abandonFinish

inductive Step : Type 1 where
  | pushKeys (keys : List Key)
  /-- Keys that are held back until the fetch with a number. -/
  | reveal (number : Nat) (keys : List Key)
  | script (batches : List (List Key))
  | failFetches (failing : Bool)
  | delayFetches (milliseconds : Nat)
  | pushOutput (output : Rotation.Output)
  | setSessionThreshold (keyCount : Nat)
  | failPages (pages : List UInt64)
  | pushJoin (request : JoinRequest)
  | failDerivations (failing : Bool)
  | plant (name : String) (fault : Memory.Fault)
  /-- A request that is made directly. -/
  | call (q : Request)
  | write (store key value : String)
  /-- A look at something that may be in use. -/
  | hold
  | look (member : String)
  | found (member store : String) (f : Community.Founding) (actor : Actor) (config : Config)
  | foundRegistered (member store : String) (f : Community.Founding) (actor : Actor)
  | foundLone (store : String) (f : Community.Founding) (actor : Actor) (config : Config)
  | load (member store groupId : String) (actor : Actor)
  | forget (member : String)
  | openGroup (member store groupId : String) (actor : Actor)
  /-- A group is opened by a number of tasks at once. -/
  | openMany (store groupId : String) (actor : Actor) (tasks : Nat)
  | lookUp (store groupId : String)
  | remove (store groupId : String)
  /-- A deed on the group of a member, or on the lone group. -/
  | act (member : Option String) (deed : Deed)
  | leave (member : String)
  | adjustLone (rank : Option UInt32) (keyUpdate : Option Bool)

/-- What has been told and is left, if something was done. -/
def aftermath {α : Type} (cm : Community) :
    Option (α × List Event × Community) → List Event × Community
  | some (_, r) => r
  | none => ([], cm)

/-- Does something to the group of a member, or to the lone group. -/
def carryOut {α : Type} (member : Option String) (deed : Community.Deed α) (cm : Community) :
    List Event × Community :=
  match member with
  | some m => aftermath cm (cm.onMember m deed)
  | none => aftermath cm (cm.onLone deed)

def Deed.perform (member : Option String) : Deed → Community → List Event × Community
  | operation op => carryOut member (.operation op)
  | dropped limit op => carryOut member (.dropped limit op.action)
  | fetchNew token threshold => carryOut member (.action (Group.fetchNew token threshold))
  | transfer paging kind recipient recipientKey =>
    carryOut member (.action (Group.transfer paging kind recipient recipientKey))
  | append keys => carryOut member (.action (Group.append keys))
  | abandonFinish => carryOut member (.action Group.abandonFinish)

def Step.perform : Step → Community → List Event × Community
  | pushKeys keys, cm => ([], { cm with server := cm.server.pushKeys keys })
  | reveal number keys, cm => ([], { cm with server := cm.server.revealAt number keys })
  | script batches, cm => ([], { cm with server := cm.server.script batches })
  | failFetches failing, cm => ([], { cm with server := { cm.server with failing } })
  | delayFetches time, cm => ([], { cm with server := { cm.server with delay := some time } })
  | pushOutput output, cm => ([], { cm with server := cm.server.pushOutput output })
  | setSessionThreshold keyCount, cm =>
    ([], { cm with server := { cm.server with sessionThreshold := keyCount } })
  | failPages pages, cm => ([], { cm with server := cm.server.failPages pages })
  | pushJoin request, cm => ([], { cm with server := cm.server.pushJoin request })
  | failDerivations failing, cm => ([], { cm with engine := { cm.engine with failing } })
  | plant name fault, cm => ([], { cm with faults := cm.faults.plant name fault })
  | call q, cm => (cm.call q).2
  | write store key value, cm => ([], cm.write store key value)
  | hold, cm => ([], cm.hold)
  | look member, cm => ([], (cm.look member).2)
  | found member store f actor config, cm => (cm.found member store f actor config).2
  | foundRegistered member store f actor, cm => (cm.foundRegistered member store f actor).2
  | foundLone store f actor config, cm => (cm.foundLone store f actor config).2
  | load member store groupId actor, cm => (cm.loadMember member store groupId actor).2
  | forget member, cm => ([], cm.forget member)
  | openGroup member store groupId actor, cm => (cm.openMember member store groupId actor).2
  | openMany store groupId actor tasks, cm => (cm.openMany store groupId actor tasks).2
  | lookUp store groupId, cm => ([], (cm.lookUp store groupId).2)
  | remove store groupId, cm => ([], (cm.remove store groupId).2)
  | act member deed, cm => deed.perform member cm
  | leave member, cm =>
    match cm.leave member with
    | some (some (_, events), cm) => (events, cm)
    | some (none, cm) => ([], cm)
    | none => ([], cm)
  | adjustLone rank keyUpdate, cm => ([], cm.adjustLone rank keyUpdate)

def performAll : List Step → Community → List Event × Community
  | [], cm => ([], cm)
  | step :: rest, cm =>
    let (events, cm) := step.perform cm
    let (more, cm) := performAll rest cm
    (events ++ more, cm)

end Scenario

/-- A scenario: the configuration of its members, whether pages are passed on as they are, the keys
that the server has at the beginning, and the steps. -/
structure Scenario : Type 1 where
  config : Config
  plain : Bool
  serverKeys : List Key
  steps : List Scenario.Step

namespace Scenario

def start (s : Scenario) : Community :=
  { config := s.config, server := { log := s.serverKeys }, engine := { plain := s.plain } }

def signals (s : Scenario) : List Signal :=
  (performAll s.steps s.start).1.filterMap Event.signal?

/-- The log of a scenario at a threshold: levels, messages, and fields with their names. -/
def log (threshold : Log.Level) (s : Scenario) :
    List (Log.Level × String × List (String × Log.Field)) :=
  ((s.signals.filterMap Signal.notice?).filter (·.level.shows threshold)).map fun n =>
    (n.level, n.message, n.fields)

def metrics (s : Scenario) : List Metric :=
  s.signals.filterMap Signal.metric?

end Scenario

end Keyring
