import Keyring.Group.Operation
import Keyring.Key.Sample
import Keyring.Memory.World

/-!
A simulated finish run: a member with a short history, a server with some keys that the member has
not fetched, a chain of pending outputs that comes newest first, and some outputs whose start key
never comes.
-/

namespace Keyring.Simulation

/-- The keys that the member has at the start. -/
def history : Nat := 5

/-- The outputs of a chain, oldest first: each starts from the key that the one before it gives. -/
def chain (preKeyId : String) (index : Nat) : Nat → List Rotation.Output
  | 0 => []
  | n + 1 =>
    let serverOutput := "sim-" ++ Decimal.render index
    ⟨preKeyId, serverOutput⟩ ::
      chain (Memory.Engine.rotatedKeyId preKeyId serverOutput) (index + 1) n

def lost (n : Nat) : List Rotation.Output :=
  (List.range n).map fun i => ⟨"missing-" ++ Decimal.render i, "lost-" ++ Decimal.render i⟩

def server (pending missing lagging : Nat) : Memory.Server where
  log := Key.samples (history + lagging)
  pending :=
    (chain ("key-" ++ Decimal.render (history + lagging - 1)) 0 pending).reverse ++ lost missing

def actor : Actor where
  userId := "simulator"
  publicKey := "sim-pk"
  privateKey := "sim-sk"
  token := "sim-jwt"

def group (config : Config) : Except Failure Group := do
  let h ← History.ofKeys (Key.samples history)
  return { record := Group.Record.make "simulated" 1 h, actor, config }

def preparation : List Signal :=
  Signal.appended 0 (Key.samples history)

def run (g : Group) (pending missing lagging : Nat) :
    Run Group Memory.State (Except Failure Rotation.Outcome) :=
  let state : Memory.State := { server := server pending missing lagging }
  Group.Operation.finishInTime.run Memory.world state.fetchBound g state

def toJson (outcome : Rotation.Outcome)
    (r : Run Group Memory.State (Except Failure Rotation.Outcome)) : Json :=
  .record [
    ("complete", .bool outcome.isComplete),
    ("fetch_calls", .natural r.world.server.cursors.length),
    ("local_keys", .natural r.state.record.history.size),
    ("resolved", .natural outcome.resolved),
    ("rounds", .natural outcome.rounds),
    ("unresolved_pre_keys", .array (outcome.unresolved.map fun o => .text o.preKeyId))]

end Keyring.Simulation
