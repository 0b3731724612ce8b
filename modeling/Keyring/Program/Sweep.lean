import Keyring.Request
import Keyring.Signal

namespace Keyring

/-- The state of a fetch loop between two requests. Nothing bounds their number but the answers. -/
structure Sweep where
  token : String
  groupId : String
  /-- A batch of more keys than this means that the server has more. -/
  threshold : UInt64
  /-- Where the next batch starts. -/
  cursor : Cursor
  /-- The batches so far, the last one first. -/
  batches : List (List Key) := []
  deriving Repr

namespace Sweep

def request (s : Sweep) : Request :=
  .fetchKeys s.token s.groupId s.cursor

def gathered (s : Sweep) : List Key :=
  s.batches.reverse.flatten

/-- Whether a batch means that the server has more keys. -/
def hasMore (s : Sweep) (batch : List Key) : Bool :=
  s.threshold.toNat < batch.length

def signals (s : Sweep) (batch : List Key) : List Signal :=
  [.metric (.batchFetched batch.length),
    .notice (.batchFetched s.groupId (s.batches.length + 1) batch.length (s.hasMore batch))]

/-- Where a batch leads: to a further request, or to the end with every key gathered. -/
def take (s : Sweep) (batch : List Key) : Sweep ⊕ List Key :=
  match batch.getLast? with
  | none => .inr s.gathered
  | some last =>
    if s.hasMore batch then
      .inl { s with cursor := last.cursor, batches := batch :: s.batches }
    else .inr (s.gathered ++ batch)

end Sweep

end Keyring
