import Keyring.JoinRequest
import Keyring.Key.Basic
import Keyring.Rotation.Basic
import Keyring.Text.Decimal
import Keyring.Transfer.Basic

namespace Keyring.Memory

/-- The first page of a transfer, as received. -/
structure OpeningRecord where
  kind : Transfer.Kind
  groupId : String
  userId : String
  keyCount : Nat
  rank : UInt32
  payload : String
  sessionId : String
  deriving DecidableEq, Repr

/-- A later page of a transfer, as received. -/
structure PageRecord where
  kind : Transfer.Kind
  sessionId : String
  userId : String
  index : UInt64
  payload : String
  deriving DecidableEq, Repr

/-- Where a server takes the ids of its sessions from. No id is empty, and none comes twice. -/
structure SessionIds where
  id : Nat → String
  id_ne_empty : ∀ n, id n ≠ ""
  id_injective : ∀ m n, id m = id n → m = n

/-- Sessions that are numbered. -/
def SessionIds.numbered : SessionIds where
  id n := "session-" ++ Decimal.render n
  id_ne_empty n := by simp
  id_injective m n h := by
    have htext := congrArg String.toList h
    rw [String.toList_append, String.toList_append, List.append_cancel_left_eq] at htext
    exact Decimal.render_injective (String.toList_inj.mp htext)

/-- The server's state. -/
structure Server where
  /-- The keys in the order in which they were added. -/
  log : List Key := []
  /-- Keys that enter the log at a fetch, with the number of that fetch. -/
  delayed : List (Nat × List Key) := []
  /-- Batches that fetches get instead of keys from the log. -/
  scripted : List (List Key) := []
  /-- The cursors of all fetches so far, the last one first. -/
  cursors : List Cursor := []
  /-- Whether fetches fail. -/
  failing : Bool := false
  /-- The milliseconds that a fetch waits for, if it waits. -/
  delay : Option Nat := none
  pending : List Rotation.Output := []
  committed : List (Rotation.Output × Key) := []
  published : List Rotation.Artifact := []
  /-- A history of more keys than this needs a session. -/
  sessionThreshold : Nat := 50
  sessionIds : SessionIds := .numbered
  /-- The number of sessions opened so far. -/
  sessions : Nat := 0
  openings : List OpeningRecord := []
  pages : List PageRecord := []
  /-- The pages that are rejected. -/
  failingPages : List UInt64 := []
  joinRequests : List JoinRequest := []
  rejected : List String := []
  left : List String := []

namespace Server

def pushKeys (s : Server) (keys : List Key) : Server :=
  { s with log := s.log ++ keys }

/-- Holds keys back until the fetch with a number. -/
def revealAt (s : Server) (call : Nat) (keys : List Key) : Server :=
  { s with delayed := s.delayed ++ [(call, keys)] }

def script (s : Server) (batches : List (List Key)) : Server :=
  { s with scripted := s.scripted ++ batches }

def pushOutput (s : Server) (output : Rotation.Output) : Server :=
  { s with pending := s.pending ++ [output] }

def pushJoin (s : Server) (request : JoinRequest) : Server :=
  { s with joinRequests := s.joinRequests ++ [request] }

def failPages (s : Server) (pages : List UInt64) : Server :=
  { s with failingPages := s.failingPages ++ pages }

/-- The position of the first element with a property. -/
def position? {α : Type} (p : α → Bool) : List α → Option Nat
  | [] => none
  | a :: rest => if p a then some 0 else (position? p rest).map (· + 1)

/-- Receives the first page of a transfer; gives the id of a session if the history is long, else
an empty id. An accepted request to join is no longer pending. -/
def openTransfer (s : Server) (kind : Transfer.Kind) (groupId userId : String) (keyCount : Nat)
    (rank : UInt32) (payload : String) : Server × String :=
  let long := s.sessionThreshold < keyCount
  let sessions := if long then s.sessions + 1 else s.sessions
  let sessionId := if long then s.sessionIds.id sessions else ""
  let joinRequests := match kind with
    | .acceptJoinRequest => s.joinRequests.filter (·.userId ≠ userId)
    | .invite => s.joinRequests
  ({ s with
      sessions, joinRequests
      openings := s.openings ++ [⟨kind, groupId, userId, keyCount, rank, payload, sessionId⟩] },
    sessionId)

def receivePage (s : Server) (kind : Transfer.Kind) (sessionId userId : String) (index : UInt64)
    (payload : String) : Server × Except Failure Unit :=
  if s.failingPages.contains index then
    (s, .error (.gateway ("page " ++ Decimal.render index.toNat ++ " rejected")))
  else if !s.openings.any (·.sessionId == sessionId) then
    (s, .error (.gateway ("unknown session " ++ sessionId)))
  else ({ s with pages := s.pages ++ [⟨kind, sessionId, userId, index, payload⟩] }, .ok ())

def rejectJoin (s : Server) (userId : String) : Server × Except Failure Unit :=
  if s.joinRequests.any (·.userId == userId) then
    ({ s with
        joinRequests := s.joinRequests.filter (·.userId ≠ userId)
        rejected := s.rejected ++ [userId] },
      .ok ())
  else (s, .error (.gateway ("no join request from " ++ userId)))

def listLimit : Nat := 50

/-- The first join requests after a cursor, in order. -/
def listJoins (s : Server) (cursor : Option JoinRequest) : List JoinRequest :=
  let sorted := s.joinRequests.mergeSort fun a b => !b.before a
  let later := match cursor with
    | none => sorted
    | some c => sorted.filter c.before
  later.take listLimit

/-- Takes the key of a pending output. A key whose id the log has already is not added again, and
no key is older than the one before it. -/
def commit (s : Server) (output : Rotation.Output) (key : Key) : Server :=
  let log :=
    if s.log.any (·.id == key.id) then s.log
    else match s.log.getLast? with
      | some last => s.log ++ [{ key with time := max key.time last.time }]
      | none => s.log ++ [key]
  { s with
    log
    pending := s.pending.filter (· ≠ output)
    committed := s.committed ++ [(output, key)] }

/-- The keys of a log after a cursor: after the key that it names, or else from the first key that
is newer. -/
def keysAfter (log : List Key) (c : Cursor) : List Key :=
  match position? (·.id == c.keyId) log with
  | some i => log.drop (i + 1)
  | none => log.dropWhile fun k => k.time ≤ c.time

/-- Answers a fetch: the next scripted batch if there is one, else the keys after the cursor. -/
def fetch (s : Server) (c : Cursor) : Server × Except Failure (List Key) :=
  if s.failing then (s, .error (.gateway "fetch unavailable"))
  else
    let cursors := c :: s.cursors
    let (due, waiting) := s.delayed.partition (·.1 ≤ cursors.length)
    let s := { s with cursors, delayed := waiting, log := s.log ++ (due.map Prod.snd).flatten }
    match s.scripted with
    | batch :: rest => ({ s with scripted := rest }, .ok batch)
    | [] => (s, .ok (keysAfter s.log c))

end Server

end Keyring.Memory
