import Mathlib.Logic.Function.Basic
import Mathlib.Logic.Relation
import Keyring.Group.Operation
import Keyring.Memory.World
import Keyring.Proofs.History.Chronicle

/-!
Members who work at the same time with one simulated server. In most steps of such a system one
request of one member is answered, and the member's operation goes on by itself up to its next
request; between two requests of a member all others may take any number of steps.
-/

namespace Keyring

/-- Runs a program up to its next request, or to its end. -/
def Program.settle {σ α : Type} : Program σ α → σ → Program σ α × σ
  | tell _ next, state => next.settle state
  | read next, state => (next state).settle state
  | write state next, _ => next.settle state
  | p, state => (p, state)

/-- Whether the answer that a program gets ends a fetch loop: the batch reaches the end of the log.
-/
def Program.endsLoop {σ α : Type} : Program σ α → List Event → Bool
  | gather sweep _, .called (.fetchKeys ..) (.ok batch) :: _ => (sweep.take batch).isRight
  | _, _ => false

/-- The keys that enter the server's log with the next fetch. -/
def Memory.Server.due (s : Memory.Server) : List Key :=
  if s.failing then []
  else ((s.delayed.filter (·.1 ≤ s.cursors.length + 1)).map Prod.snd).flatten

namespace Concurrency

open Memory

/-- An operation under way, from its next request on. -/
structure Task where
  {α : Type}
  op : Group.Operation α
  rest : Program Group (Except Failure α)

/-- A member, who uses one of the engines and one of the stores. -/
structure Member where
  group : Group
  engine : Nat
  store : Nat
  task : Option Task := none
  /-- The server's log as it was when the member's last fetch loop came to its end. -/
  fetched : Option (List Key) := none

namespace Member

variable {α : Type}

/-- A member whose operation goes on up to its next request, or to its end. -/
def resume (m : Member) (op : Group.Operation α) (rest : Program Group (Except Failure α)) :
    Member :=
  match rest.settle m.group with
  | (.done _, group) => { m with group, task := none }
  | (rest, group) => { m with group, task := some ⟨op, rest⟩ }

/-- A member whose operation is given up while it waits for an answer. If a time limit was the
reason, the member recovers from that. -/
def giveUp (m : Member) : Group.Operation α → Member
  | .finishInTime => ({ m with task := none }).resume .finishInTime Group.finishExpired.run
  | _ => { m with task := none }

end Member

/-- Members with one server and any number of engines and stores. -/
structure System (ι : Type) where
  server : Server
  engines : Nat → Engine
  stores : Nat → Store
  members : ι → Member

namespace System

variable {ι : Type} [DecidableEq ι]

def keys (sys : System ι) (i : ι) : List Key :=
  (sys.members i).group.record.history.keys

def around (sys : System ι) (m : Member) (clock : Clock) : State :=
  ⟨sys.server, sys.engines m.engine, sys.stores m.store, clock⟩

def withMember (sys : System ι) (i : ι) (m : Member) : System ι :=
  { sys with members := Function.update sys.members i m }

/-- A system in which one member has changed, and what that member meets. -/
def absorb (sys : System ι) (i : ι) (m : Member) (s : State) : System ι where
  server := s.server
  engines := Function.update sys.engines m.engine s.engine
  stores := Function.update sys.stores m.store s.store
  members := Function.update sys.members i m

end System

variable {ι : Type} [DecidableEq ι]

/-- A step of a system. -/
inductive Step (sys : System ι) : System ι → Prop where
  /-- Keys are added to the server's log, which they continue. -/
  | push (keys : List Key) (hfit : Chronicle (sys.server.log ++ keys)) :
      Step sys { sys with server := sys.server.pushKeys keys }
  /-- The server changes in any way but for its log, and has no script: new outputs are pending,
  users ask to join, fetches begin or cease to fail. -/
  | tune (server : Server) (hlog : server.log = sys.server.log)
      (hscript : server.scripted = []) : Step sys { sys with server }
  /-- Engines and stores change in any way. -/
  | equip (engines : Nat → Engine) (stores : Nat → Store) :
      Step sys { sys with engines, stores }
  /-- A member who is free begins an operation. -/
  | begin {α : Type} (i : ι) (op : Group.Operation α)
      (hfree : (sys.members i).task = none) :
      Step sys (sys.withMember i ((sys.members i).resume op op.action.run))
  /-- The request that a member waits for is answered. If it is a fetch, the keys that enter the
  log with it continue the log. -/
  | answer (i : ι) (task : Task) (clock : Clock)
      (htask : (sys.members i).task = some task)
      (hfit : ∀ sweep next, task.rest = .gather sweep next →
        Chronicle (sys.server.log ++ sys.server.due))
      (rest : Program Group (Except Failure task.α)) (group : Group) (s : State)
      (events : List Event)
      (hstep : task.rest.step world (sys.members i).group (sys.around (sys.members i) clock) =
        (some (rest, group), s, events)) :
      Step sys (sys.absorb i (Member.resume
        { sys.members i with
          group
          fetched := if task.rest.endsLoop events then some s.server.log
            else (sys.members i).fetched }
        task.op rest) s)
  /-- A member gives an operation up. -/
  | giveUp (i : ι) (task : Task) (htask : (sys.members i).task = some task) :
      Step sys (sys.withMember i ((sys.members i).giveUp task.op))

end Concurrency

end Keyring
