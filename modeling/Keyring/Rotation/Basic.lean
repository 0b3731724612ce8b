import Keyring.Failure

namespace Keyring.Rotation

/-- What the server holds for a member to derive a new key from a known one. -/
structure Output where
  /-- The key that the rotation starts from. -/
  preKeyId : String
  serverOutput : String
  deriving DecidableEq, Repr

/-- A prepared rotation, as it is published. -/
structure Artifact where
  /-- The key that the rotation starts from. -/
  preKeyId : String
  payload : String
  deriving DecidableEq, Repr

/-- Where a member stands in a rotation. -/
inductive Phase where
  | idle
  /-- Prepared and not yet published. -/
  | prepared (artifact : Artifact)
  /-- Published and not yet finished. -/
  | published
  /-- A finish run is under way. -/
  | finishing
  deriving DecidableEq, Repr

def Phase.name : Phase → String
  | .idle => "idle"
  | .prepared _ => "prepared"
  | .published => "published"
  | .finishing => "finishing"

/-- How a finish run ends. -/
inductive Outcome where
  /-- Every pending output is resolved; no rounds mean that none was pending. -/
  | completed (resolved rounds : Nat)
  /-- The rounds are used up, and the start keys of some outputs never came. -/
  | incomplete (resolved rounds : Nat) (unresolved : List Output)
  deriving DecidableEq, Repr

namespace Outcome

def isComplete : Outcome → Bool
  | completed .. => true
  | incomplete .. => false

def resolved : Outcome → Nat
  | completed n _ => n
  | incomplete n _ _ => n

def rounds : Outcome → Nat
  | completed _ n => n
  | incomplete _ n _ => n

def unresolved : Outcome → List Output
  | completed .. => []
  | incomplete _ _ outputs => outputs

/-- The outcome if it is complete, a failure if not. -/
def ensureComplete : Outcome → Except Failure Outcome
  | incomplete _ rounds outputs => .error (.rotationIncomplete outputs.length rounds)
  | completed resolved rounds => .ok (completed resolved rounds)

end Outcome

end Keyring.Rotation
