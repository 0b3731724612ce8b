import Keyring.Assoc
import Keyring.Group.Operation
import Keyring.Memory.Faults
import Keyring.Memory.World
import Keyring.Registry

/-!
A community: one server and one engine, shared by named members with named stores. Each store has a
registry of open groups. Members are names for handles, so two names may stand for the same group.
A store, a registry and the group of a member may be in use: whoever takes hold of one comes past a
stop of the clock.
-/

namespace Keyring

namespace Community

/-- A place for a group: the group, and the name of its store. -/
structure Cell where
  group : Group
  store : String

abbrev Handle := Nat

end Community

open Community in
/-- The state of a community. -/
structure Community where
  /-- The configuration of members that have none of their own. -/
  config : Config
  server : Memory.Server := {}
  engine : Memory.Engine := {}
  faults : Memory.Faults := []
  clock : Memory.Clock := {}
  stores : List (String × Memory.Store) := []
  registries : List (String × Registry Handle) := []
  cells : List Cell := []
  members : List (String × Handle) := []
  /-- A group that no name stands for. -/
  lone : Option Cell := none

namespace Community

/-- The value under a name, which need not be there yet. -/
def named {α : Type} (fallback : α) (name : String) (entries : List (String × α)) : α :=
  (entries.lookup name).getD fallback

def store (cm : Community) (name : String) : Memory.Store :=
  named {} name cm.stores

def setStore (cm : Community) (name : String) (s : Memory.Store) : Community :=
  { cm with stores := Assoc.put name s cm.stores }

def registry (cm : Community) (store : String) : Registry Handle :=
  named {} store cm.registries

def setRegistry (cm : Community) (store : String) (r : Registry Handle) : Community :=
  { cm with registries := Assoc.put store r cm.registries }

def handle? (cm : Community) (member : String) : Option Handle :=
  cm.members.lookup member

def cell? (cm : Community) (member : String) : Option Cell :=
  (cm.handle? member).bind (cm.cells[·]?)

/-- Takes hold of something that may be in use. -/
def hold (cm : Community) : Community :=
  { cm with clock := cm.clock.pass.2 }

/-- The cell of a member, as it is found by taking hold of it. -/
def look (cm : Community) (member : String) : Option Cell × Community :=
  match cm.cell? member with
  | some c => (some c, cm.hold)
  | none => (none, cm)

def write (cm : Community) (store key value : String) : Community :=
  cm.hold.setStore store ((cm.store store).set key value)

/-- The handle of a group in the registry of a store. -/
def lookUp (cm : Community) (store groupId : String) : Option Handle × Community :=
  ((cm.registry store).get? groupId, cm.hold)

/-- Enters a handle into the registry of a store. -/
def enter (cm : Community) (store groupId : String) (h : Handle) : Community :=
  cm.hold.setRegistry store ((cm.registry store).insert groupId h)

/-- Removes a group from the registry of a store; gives the handle that the group had. -/
def remove (cm : Community) (store groupId : String) : Option Handle × Community :=
  let r := cm.registry store
  (r.get? groupId, cm.hold.setRegistry store (r.remove groupId))

def assign (cm : Community) (member : String) (h : Handle) : Community :=
  { cm with members := Assoc.put member h cm.members }

def forget (cm : Community) (member : String) : Community :=
  { cm with members := cm.members.filter (·.1 ≠ member) }

def addCell (cm : Community) (c : Cell) : Community × Handle :=
  ({ cm with cells := cm.cells ++ [c] }, cm.cells.length)

/-- Whether another name or a registry holds the handle of a member. -/
def shared (cm : Community) (member : String) (h : Handle) : Bool :=
  cm.members.any (fun m => m.1 ≠ member && m.2 == h) ||
    cm.registries.any fun r => r.2.handles.any (·.2 == h)

/-- The part of a community that answers the requests of the members with a store. -/
def memory (cm : Community) (store : String) : Memory.Faults × Memory.State :=
  (cm.faults,
    { server := cm.server, engine := cm.engine, store := cm.store store, clock := cm.clock })

def absorb (cm : Community) (store : String) (m : Memory.Faults × Memory.State) : Community :=
  { cm.setStore store m.2.store with
    faults := m.1, server := m.2.server, engine := m.2.engine, clock := m.2.clock }

def world : World (Memory.Faults × Memory.State) :=
  Memory.withFaults Memory.world

abbrev Deed (α : Type) : Type :=
  Group → Memory.Faults × Memory.State → Run Group (Memory.Faults × Memory.State) α

/-- How many requests a fetch loop may make that starts under a time limit: as many as it needs, if
it comes to an end. -/
def fuel (limit : Duration) (m : Memory.Faults × Memory.State) : Nat :=
  m.2.fetchBound + m.1.skip "fetch_keys" + limit.millisecondsUp + Memory.turnLength

def Deed.operation {α : Type} (op : Group.Operation α) : Deed (Except Failure α) :=
  fun g m => op.run world (fuel g.config.rotation.timeout m) g m

/-- Runs an action that is not an operation of its own. -/
def Deed.action {α : Type} (a : Group.Action α) : Deed (Except Failure α) :=
  fun g m => a.run.run world (fuel .zero m) g m

/-- Runs an action that is dropped after a number of milliseconds. -/
def Deed.dropped {α : Type} (limit : Duration) (a : Group.Action α) : Deed (Except Failure α) :=
  fun g m =>
    let r := a.run.run world (fuel limit m) g (world.startTimer limit m)
    { r with world := world.stopTimer r.world }

def act {α : Type} (cm : Community) (c : Cell) (deed : Deed α) : Run Cell Community α :=
  let r := deed c.group (cm.memory c.store)
  ⟨r.ending, { c with group := r.state }, cm.absorb c.store r.world, r.trace⟩

/-- Takes hold of the group of a member, if there is one, and does something to it. -/
def onMember {α : Type} (cm : Community) (member : String) (deed : Deed α) :
    Option (Ending α × List Event × Community) := do
  let h ← cm.handle? member
  let r := cm.hold.act (← cm.cells[h]?) deed
  return (r.ending, r.trace, { r.world with cells := r.world.cells.set h r.state })

/-- Does something to the lone group, if there is one. -/
def onLone {α : Type} (cm : Community) (deed : Deed α) :
    Option (Ending α × List Event × Community) := do
  let r := cm.act (← cm.lone) deed
  return (r.ending, r.trace, { r.world with lone := some r.state })

/-- Leaves the group of a member; the name goes with it. A group that is held elsewhere cannot be
left; nobody else can have hold of one that is not. -/
def leave (cm : Community) (member : String) :
    Option (Option (Ending (Except Failure Unit) × List Event) × Community) := do
  let h ← cm.handle? member
  let c ← cm.cells[h]?
  if cm.shared member h then return (none, cm)
  let r := cm.act c (.operation .leave)
  return (some (r.ending, r.trace), r.world.forget member)

def call (cm : Community) (q : Request) : Ending q.Reply × List Event × Community :=
  let r := (Program.ask q Program.done).run world 0 () (cm.memory "main")
  (r.ending, r.trace, cm.absorb "main" r.world)

def load (cm : Community) (store groupId : String) (actor : Actor) :
    Ending (Except Failure Group) × List Event × Community :=
  let p : Program Unit (Except Failure Group) := (Group.load groupId actor cm.config).run
  let r := p.run world 0 () (cm.memory store)
  (r.ending, r.trace, cm.absorb store r.world)

/-- The group that a task holds at the end of its opening, if it has one. -/
def loaded? : Program Unit (Except Failure Group) → Except Failure Group
  | .done r => r
  | _ => .error (.store "still loading")

/-- Enters a loaded group into the registry of its store, unless the registry has the group. -/
def register (cm : Community) (store groupId : String) (g : Group) :
    Handle × List Event × Community :=
  let (cm', fresh) := cm.hold.addCell ⟨g, store⟩
  let (r, h) := (cm.registry store).insertIfAbsent groupId fresh
  (h, [.told (.notice (.groupOpened groupId r.size))], cm'.setRegistry store r)

/-- Opens a group through the registry of a store. -/
def openGroup (cm : Community) (store groupId : String) (actor : Actor) :
    Except Failure Handle × List Event × Community :=
  match cm.lookUp store groupId with
  | (some h, cm) => (.ok h, [], cm)
  | (none, cm) =>
    match cm.load store groupId actor with
    | (.finished (.ok g), trace, cm) =>
      let (h, more, cm) := cm.register store groupId g
      (.ok h, trace ++ more, cm)
    | (.finished (.error e), trace, cm) => (.error e, trace, cm)
    | (_, trace, cm) => (.error (.store "not loaded"), trace, cm)

def stepAll (store : String) : List (Program Unit (Except Failure Group)) → Community →
    List (Program Unit (Except Failure Group)) × List Event × Community
  | [], cm => ([], [], cm)
  | p :: rest, cm =>
    let (next, m, events) := p.step world () (cm.memory store)
    let (others, more, cm) := stepAll store rest (cm.absorb store m)
    ((next.map (·.1)).getD p :: others, events ++ more, cm)

/-- Lets every task run on without a further request and enter its group. -/
def registerAll (store groupId : String) : List (Program Unit (Except Failure Group)) → Community →
    List (Except Failure Handle) × List Event × Community
  | [], cm => ([], [], cm)
  | p :: rest, cm =>
    let (next, m, events) := p.step world () (cm.memory store)
    let cm := cm.absorb store m
    match loaded? ((next.map (·.1)).getD p) with
    | .error e =>
      let (others, more, cm) := registerAll store groupId rest cm
      (.error e :: others, events ++ more, cm)
    | .ok g =>
      let (h, entered, cm) := cm.register store groupId g
      let (others, more, cm) := registerAll store groupId rest cm
      (.ok h :: others, events ++ entered ++ more, cm)

/-- Opens a group by a number of tasks at once: each has looked for it in the registry before any
of them has read the store. Every task has a result of its own. -/
def openMany (cm : Community) (store groupId : String) (actor : Actor) (n : Nat) :
    List (Except Failure Handle) × List Event × Community :=
  let gathered (cm : Community) : Community := { cm with clock := cm.clock.gather n }
  match (cm.registry store).get? groupId with
  | some h => (List.replicate n (.ok h), [], gathered cm)
  | none =>
    let p : Program Unit (Except Failure Group) := (Group.load groupId actor cm.config).run
    let (tasks, events, cm) := stepAll store (List.replicate n p) cm
    let (results, more, cm) := registerAll store groupId tasks cm
    (results, events ++ more, gathered cm)

end Community

end Keyring
