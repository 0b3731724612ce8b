import Keyring.Log.Level

namespace Keyring.Log

/-- The value of a field of a log line. -/
inductive Field where
  | number (n : Nat)
  | flag (b : Bool)
  /-- A text that stands for itself. -/
  | plain (s : String)
  /-- A text that is quoted in lines for people. -/
  | quoted (s : String)
  deriving DecidableEq, Repr

/-- An event worth a log line. No constructor has room for key material. -/
inductive Notice where
  | keyIndexed (keyId : String) (position : Nat)
  | batchFetched (groupId : String) (call batch : Nat) (more : Bool)
  | knownKeysSkipped (groupId : String) (skipped : Nat)
  | rotationPrepared (groupId preKeyId : String)
  | rotationPublished (groupId preKeyId : String)
  | finishAbandoned (groupId phase : String)
  | nothingPending (groupId : String)
  | finishStarted (groupId : String) (pending : Nat)
  | outputDeferred (round : Nat) (preKeyId : String)
  | outputResolved (round : Nat) (preKeyId keyId : String)
  | roundEnded (round fetched deferred roundsLeft : Nat)
  | finishCompleted (groupId : String) (resolved rounds : Nat)
  | finishIncomplete (groupId : String) (resolved rounds unresolved : Nat)
  | recordSaved (storeKey : String) (keys bytes : Nat)
  | groupLoaded (groupId : String) (keys : Nat)
  | groupLeft (groupId userId : String)
  | finishTimedOut (groupId timeout : String)
  | groupOpened (groupId : String) (openGroups : Nat)
  | sessionNotRequired (groupId recipient kind : String)
  | sessionWithoutMore (sessionId : String)
  | pageUploadFailed (sessionId : String) (page : Nat) (error : String)
  | transferEnded (groupId recipient kind : String) (uploaded failed : Nat)
  | joinRejected (groupId userId : String)
  | configurationValid
  | noCommand
  | simulationStarted (pending missing lagging : Nat)
  | simulationIncomplete (unresolved : Nat)
  deriving DecidableEq, Repr

namespace Notice

def level : Notice → Level
  | keyIndexed .. => .trace
  | batchFetched .. | rotationPrepared .. | nothingPending .. | outputDeferred ..
  | outputResolved .. | roundEnded .. | recordSaved .. | groupLoaded .. | groupOpened ..
  | sessionWithoutMore .. => .debug
  | rotationPublished .. | finishStarted .. | finishCompleted .. | groupLeft ..
  | sessionNotRequired .. | transferEnded .. | joinRejected .. | configurationValid | noCommand
  | simulationStarted .. => .info
  | knownKeysSkipped .. | finishAbandoned .. | finishIncomplete .. | finishTimedOut ..
  | pageUploadFailed .. | simulationIncomplete .. => .warn

def message : Notice → String
  | keyIndexed .. => "Indexing group key"
  | batchFetched .. => "Fetched key batch"
  | knownKeysSkipped .. => "Server returned already known keys"
  | rotationPrepared .. => "Rotation prepared"
  | rotationPublished .. => "Rotation published"
  | finishAbandoned .. => "Finish run abandoned"
  | nothingPending .. => "No pending rotation outputs"
  | finishStarted .. => "Finishing key rotation"
  | outputDeferred .. => "Pre-key unknown, deferring output"
  | outputResolved .. => "Rotation output resolved"
  | roundEnded .. => "Rotation round complete"
  | finishCompleted .. => "Key rotation finished"
  | finishIncomplete .. => "Key rotation incomplete, pre-keys never arrived"
  | recordSaved .. => "Persisting group data"
  | groupLoaded .. => "Loaded group"
  | groupLeft .. => "Left group"
  | finishTimedOut .. => "Rotation finish timed out"
  | groupOpened .. => "Group opened"
  | sessionNotRequired .. => "Key transfer complete, no session required"
  | sessionWithoutMore .. => "Session opened, page 1 will be empty"
  | pageUploadFailed .. => "Key page upload failed"
  | transferEnded .. => "Key transfer session finished"
  | joinRejected .. => "Join request rejected"
  | configurationValid => "Configuration is valid"
  | noCommand => "No command specified. Use --help for usage information."
  | simulationStarted .. => "Starting simulated rotation finish"
  | simulationIncomplete .. => "Simulated rotation ended incomplete"

def fields : Notice → List (String × Field)
  | keyIndexed keyId position => [("key_id", .plain keyId), ("index", .number position)]
  | batchFetched groupId call batch more =>
    [("group_id", .quoted groupId), ("call", .number call), ("batch", .number batch),
      ("has_more", .flag more)]
  | knownKeysSkipped groupId skipped =>
    [("group_id", .quoted groupId), ("skipped", .number skipped)]
  | rotationPrepared groupId preKeyId | rotationPublished groupId preKeyId =>
    [("group_id", .plain groupId), ("pre_key", .plain preKeyId)]
  | finishAbandoned groupId phase => [("group_id", .plain groupId), ("state", .quoted phase)]
  | nothingPending groupId => [("group_id", .plain groupId)]
  | finishStarted groupId pending =>
    [("group_id", .plain groupId), ("pending", .number pending)]
  | outputDeferred round preKeyId =>
    [("round", .number round), ("pre_key", .plain preKeyId)]
  | outputResolved round preKeyId keyId =>
    [("round", .number round), ("pre_key", .plain preKeyId), ("key_id", .plain keyId)]
  | roundEnded round fetched deferred roundsLeft =>
    [("round", .number round), ("fetched", .number fetched), ("deferred", .number deferred),
      ("rounds_left", .number roundsLeft)]
  | finishCompleted groupId resolved rounds =>
    [("group_id", .plain groupId), ("resolved", .number resolved), ("rounds", .number rounds)]
  | finishIncomplete groupId resolved rounds unresolved =>
    [("group_id", .plain groupId), ("resolved", .number resolved), ("rounds", .number rounds),
      ("unresolved", .number unresolved)]
  | recordSaved storeKey keys bytes =>
    [("key", .plain storeKey), ("keys", .number keys), ("bytes", .number bytes)]
  | groupLoaded groupId keys => [("group_id", .quoted groupId), ("keys", .number keys)]
  | groupLeft groupId userId => [("group_id", .plain groupId), ("user_id", .plain userId)]
  | finishTimedOut groupId timeout =>
    [("group_id", .plain groupId), ("timeout", .plain timeout)]
  | groupOpened groupId openGroups =>
    [("group_id", .quoted groupId), ("open", .number openGroups)]
  | sessionNotRequired groupId recipient kind =>
    [("group_id", .plain groupId), ("recipient", .quoted recipient), ("kind", .quoted kind)]
  | sessionWithoutMore sessionId => [("session_id", .plain sessionId)]
  | pageUploadFailed sessionId page error =>
    [("session_id", .quoted sessionId), ("page", .number page), ("error", .plain error)]
  | transferEnded groupId recipient kind uploaded failed =>
    [("group_id", .plain groupId), ("recipient", .quoted recipient), ("kind", .quoted kind),
      ("uploaded", .number uploaded), ("failed", .number failed)]
  | joinRejected groupId userId =>
    [("group_id", .plain groupId), ("user_id", .quoted userId)]
  | configurationValid | noCommand => []
  | simulationStarted pending missing lagging =>
    [("pending", .number pending), ("missing", .number missing), ("lagging", .number lagging)]
  | simulationIncomplete unresolved => [("unresolved", .number unresolved)]

/-- The part of the program that a notice comes from, as log lines name it. -/
def target : Notice → String
  | keyIndexed .. => "groupkey_core::core_group::key_store"
  | batchFetched .. | knownKeysSkipped .. => "groupkey_core::core_group::fetch"
  | rotationPrepared .. | rotationPublished .. | finishAbandoned .. | nothingPending ..
  | finishStarted .. | outputDeferred .. | outputResolved .. | roundEnded .. | finishCompleted ..
  | finishIncomplete .. => "groupkey_core::core_group::rotation"
  | recordSaved .. => "groupkey_core::core_group::traits::storage"
  | groupLoaded .. | groupLeft .. | finishTimedOut .. => "groupkey_core::core_group::group"
  | groupOpened .. => "groupkey_core::core_group::registry"
  | sessionNotRequired .. | sessionWithoutMore .. | pageUploadFailed .. | transferEnded .. =>
    "groupkey_core::core_group::membership"
  | joinRejected .. => "groupkey_core::core_group::join_requests"
  | configurationValid | noCommand | simulationStarted .. | simulationIncomplete .. => "groupkey"

end Notice

end Keyring.Log
