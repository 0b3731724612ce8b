import Keyring.Text.Decimal

namespace Keyring

/-- Why an operation on a group did not succeed. -/
inductive Failure where
  | permissionDenied (action : String) (rank required : UInt32)
  | emptyHistory
  | duplicateKey (id : String)
  | keyOutOfOrder (id : String) (time latest : UInt64)
  | incompleteUpload (sessionId : String) (failedPages : List Nat) (total : Nat)
  | rotationIncomplete (unresolved rounds : Nat)
  | invalidPageSize
  | invalidPhase (expected actual : String)
  | timedOut (detail : String)
  | groupNotFound (id : String)
  | gateway (detail : String)
  | crypto (detail : String)
  | store (detail : String)
  /-- Something could not be read. If it was part of a text, its place there may be known; the
  message does without the place. -/
  | malformed (detail : String) (placed : Bool)
  deriving DecidableEq, Repr

namespace Failure

def renderList (ns : List Nat) : String :=
  "[" ++ ", ".intercalate (ns.map Decimal.render) ++ "]"

def message : Failure → String
  | permissionDenied action rank required =>
    "Permission denied: rank " ++ Decimal.render rank.toNat ++ " cannot " ++ action ++
      " (requires rank <= " ++ Decimal.render required.toNat ++ ")"
  | emptyHistory => "Key store is empty"
  | duplicateKey id => "Duplicate group key id: " ++ id
  | keyOutOfOrder id time latest =>
    "Key " ++ id ++ " at time " ++ Decimal.render time.toNat ++ " is older than latest key time " ++
      Decimal.render latest.toNat
  | incompleteUpload sessionId failedPages total =>
    "Partial upload failure in session " ++ sessionId ++ ": pages " ++ renderList failedPages ++
      " of " ++ Decimal.render total ++ " failed"
  | rotationIncomplete unresolved rounds =>
    "Key rotation incomplete: " ++ Decimal.render unresolved ++ " outputs unresolved after " ++
      Decimal.render rounds ++ " rounds"
  | invalidPageSize => "Invalid page size: must be at least 1"
  | invalidPhase expected actual =>
    "Invalid rotation state: expected " ++ expected ++ ", got " ++ actual
  | timedOut detail => "Timed out: " ++ detail
  | groupNotFound id => "Group not found: " ++ id
  | gateway detail => "Gateway error: " ++ detail
  | crypto detail => "Crypto error: " ++ detail
  | store detail => "Store error: " ++ detail
  | malformed detail _ => "Serialization error: " ++ detail

end Failure

end Keyring
