import Keyring.Memory.Clock
import Keyring.Memory.Engine
import Keyring.Memory.Server
import Keyring.Memory.Store
import Keyring.Program.Run

/-!
Server, engine and store of a simulation as a world for programs. Fetches may take time, and stores
may be in use; so the clock decides whether a fetch or an access to a store is answered. Whoever has
read from a store gives way to others.
-/

namespace Keyring.Memory

/-- The state of a simulation. -/
structure State where
  server : Server := {}
  engine : Engine := {}
  store : Store := {}
  clock : Clock := {}

namespace State

/-- Comes past a stop and gives a reply behind it, unless the stop is cut. -/
def behind {α : Type} (stop : Clock → Bool × Clock) (reply : State → α × State) (s : State) :
    Option α × State :=
  match stop s.clock with
  | (false, clock) => (none, { s with clock })
  | (true, clock) =>
    let (r, s) := reply { s with clock }
    (some r, s)

def fetchStop (s : State) : Clock → Bool × Clock :=
  match s.server.delay with
  | some time => Clock.wait time
  | none => fun c => (true, c)

def answer : (q : Request) → State → Option q.Reply × State
  | .openTransfer _ kind groupId userId keyCount rank payload, s =>
    let (server, id) := s.server.openTransfer kind groupId userId keyCount rank payload
    (some (.ok id), { s with server })
  | .uploadPage _ kind _ sessionId userId index payload, s =>
    let (server, r) := s.server.receivePage kind sessionId userId index payload
    (some r, { s with server })
  | .rejectJoin _ _ _ userId, s =>
    let (server, r) := s.server.rejectJoin userId
    (some r, { s with server })
  | .listJoins _ _ _ cursor, s => (some (.ok (s.server.listJoins cursor)), s)
  | .leaveGroup _ groupId, s =>
    (some (.ok ()), { s with server := { s.server with left := s.server.left ++ [groupId] } })
  | .publishRotation _ _ artifact, s =>
    let published := s.server.published ++ [artifact]
    (some (.ok ()), { s with server := { s.server with published } })
  | .pendingOutputs _ _, s => (some (.ok s.server.pending), s)
  | .commitKey _ _ output key, s => (some (.ok ()), { s with server := s.server.commit output key })
  | .fetchKeys _ _ cursor, s =>
    s.behind s.fetchStop fun s =>
      let (server, r) := s.server.fetch cursor
      (r, { s with server })
  | .sealPage payload keyCount recipientKey, s =>
    (some (.ok (s.engine.sealed payload keyCount recipientKey)), s)
  | .prepareRotation latest publicKey, s => (some (.ok (Engine.prepare latest publicKey)), s)
  | .deriveKey preKey output actor, s =>
    let (engine, r) := s.engine.derive preKey output actor
    (some r, { s with engine })
  | .readStore key, s => s.behind Clock.giveWay fun s => (.ok (s.store.get? key), s)
  | .writeStore key value, s =>
    s.behind Clock.pass fun s => (.ok (), { s with store := s.store.set key value })

/-- A number of requests within which every fetch loop ends that ends at all, time limits and faults
aside. A batch from the log leads to the end of the log; so after it only batches of a script, or
keys that are still held back, can change how the loop goes on. -/
def fetchBound (s : State) : Nat :=
  s.server.scripted.length + (s.server.delayed.map Prod.fst).foldl max 0 + 3

end State

def world : World State where
  answer := State.answer
  startTimer limit s := { s with clock := s.clock.start limit }
  stopTimer s := { s with clock := s.clock.clear }

end Keyring.Memory
