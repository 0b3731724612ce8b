import Std.Data.HashMap
import Std.Data.HashSet
import Keyring.Failure
import Keyring.Key.Basic

namespace Keyring

/-- A member's copy of a group's key history. -/
structure History where
  /-- The keys, oldest first. -/
  keys : List Key
  /-- The position of each key by its id. -/
  positions : Std.HashMap String Nat

namespace History

def empty : History :=
  ⟨[], ∅⟩

instance : Inhabited History := ⟨empty⟩

def lookup (h : History) (id : String) : Option Nat :=
  h.positions[id]?

def get? (h : History) (id : String) : Option Key :=
  (h.lookup id).bind (h.keys[·]?)

def contains (h : History) (id : String) : Bool :=
  h.positions.contains id

def size (h : History) : Nat :=
  h.keys.length

def isEmpty (h : History) : Bool :=
  h.keys.isEmpty

def latest (h : History) : Except Failure Key :=
  match h.keys.getLast? with
  | some k => .ok k
  | none => .error .emptyHistory

/-- Where the server's log goes on for this history. -/
def cursor (h : History) : Except Failure Cursor :=
  h.latest.map Key.cursor

/-- Checks a batch key by key, given the ids of the batch so far and the time of the key before:
an id may not be known already, and time may not go back. -/
def check (h : History) (seen : Std.HashSet String) (before : Option UInt64) :
    List Key → Except Failure Unit
  | [] => .ok ()
  | k :: rest =>
    if h.contains k.id || seen.contains k.id then .error (.duplicateKey k.id)
    else match before with
      | some t =>
        if k.time < t then .error (.keyOutOfOrder k.id k.time t)
        else h.check (seen.insert k.id) (some k.time) rest
      | none => h.check (seen.insert k.id) (some k.time) rest

/-- Enters keys into an index, from a position on. -/
def index (positions : Std.HashMap String Nat) (next : Nat) : List Key → Std.HashMap String Nat
  | [] => positions
  | k :: rest => index (positions.insert k.id next) (next + 1) rest

/-- Adds a batch at the end, whole or not at all. -/
def append (h : History) (batch : List Key) : Except Failure History :=
  match h.check ∅ (h.keys.getLast?.map Key.time) batch with
  | .error e => .error e
  | .ok () => .ok ⟨h.keys ++ batch, index h.positions h.size batch⟩

def ofKeys (keys : List Key) : Except Failure History :=
  empty.append keys

end History

end Keyring
