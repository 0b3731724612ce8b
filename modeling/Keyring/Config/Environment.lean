import Keyring.Config.Basic
import Keyring.Duration.Text
import Keyring.Text.Decimal

namespace Keyring.Config

/-- An environment: the value of each variable that is set to a text. -/
abbrev Environment := String → Option String

/-- A setting that a variable overrides. -/
structure Override where
  /-- The name of the variable. -/
  name : String
  /-- Changes the setting to a value. -/
  set : String → Config → Except Fault Config

def Override.read {α : Type} (name : String) (reader : String → Except String α)
    (change : Config → α → Config) : Override where
  name := name
  set s c :=
    match reader s with
    | .ok a => .ok (change c a)
    | .error reason => .error (.invalidValue (name ++ ": " ++ reason))

def readWord64 (s : String) : Except String UInt64 :=
  (Decimal.parse64 s).mapError Decimal.Fault.message

def readWord32 (s : String) : Except String UInt32 :=
  (Decimal.parse32 s).mapError Decimal.Fault.message

def readBool (s : String) : Except String Bool :=
  if s = "true" then .ok true
  else if s = "false" then .ok false
  else .error "provided string was not `true` or `false`"

def readBoundary (s : String) : Except String Page.Boundary :=
  (Page.Boundary.parse s).mapError Failure.message

/-- Reads a duration; `wording` is what is said of a text that is none. -/
def readDuration (wording : String → String) (s : String) : Except String Duration :=
  match Duration.parse s with
  | some d => .ok d
  | none => .error (wording s)

/-- The overrides, in the order in which they apply. -/
def overrides (wording : String → String) : List Override := [
  .read "GROUPKEY_KEYS_PAGE_SIZE" readWord64
    fun c n => { c with keys := { c.keys with pageSize := n } },
  .read "GROUPKEY_KEYS_FETCH_BATCH_THRESHOLD" readWord64
    fun c n => { c with keys := { c.keys with fetchThreshold := n } },
  .read "GROUPKEY_KEYS_PAGE_BOUNDARY" readBoundary
    fun c b => { c with keys := { c.keys with boundary := b } },
  .read "GROUPKEY_ROTATION_MAX_ROUNDS" readWord32
    fun c n => { c with rotation := { c.rotation with maxRounds := n } },
  { name := "GROUPKEY_ROTATION_FINISH_TIMEOUT"
    set := fun s c =>
      match readDuration wording s with
      | .ok d => .ok { c with rotation := { c.rotation with timeout := d } }
      | .error reason => .error (.invalidValue ("Invalid finish timeout: " ++ reason)) },
  .read "GROUPKEY_RANKS_INVITE" readWord32
    fun c n => { c with ranks := { c.ranks with invite := n } },
  .read "GROUPKEY_RANKS_JOIN_REQUESTS" readWord32
    fun c n => { c with ranks := { c.ranks with joinRequests := n } },
  .read "GROUPKEY_RANKS_ROTATION" readWord32
    fun c n => { c with ranks := { c.ranks with rotation := n } },
  .read "GROUPKEY_STORE_NAMESPACE" .ok
    fun c s => { c with store := { c.store with space := s } },
  .read "GROUPKEY_LOG_LEVEL" .ok
    fun c s => { c with logging := { c.logging with level := s } },
  .read "GROUPKEY_LOG_JSON" readBool
    fun c b => { c with logging := { c.logging with asJson := b } }]

def Override.apply (env : Environment) (c : Config) (o : Override) : Except Fault Config :=
  match env o.name with
  | some s => o.set s c
  | none => .ok c

/-- Applies the overrides in order, up to the first that fails. -/
def applyEnvironment (wording : String → String) (env : Environment) (c : Config) :
    Except Fault Config :=
  (overrides wording).foldlM (Override.apply env) c

def ofEnvironment (wording : String → String) (env : Environment) : Except Fault Config := do
  let c ← applyEnvironment wording env {}
  c.validate
  return c

end Keyring.Config
