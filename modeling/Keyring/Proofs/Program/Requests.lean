import Keyring.Request

namespace Keyring.Request

/-- Whether a request is one of those by which a history is sent to a new member. -/
def sends (kind : Transfer.Kind) : Request → Bool
  | sealPage .. => true
  | openTransfer _ k .. => k = kind
  | uploadPage _ k .. => k = kind
  | _ => false

/-- Whether a request is one of those that say who joins. -/
def isAdmission : Request → Bool
  | openTransfer .. | rejectJoin .. => true
  | _ => false

def isJoinList : Request → Bool
  | listJoins .. => true
  | _ => false

def isRejection : Request → Bool
  | rejectJoin .. => true
  | _ => false

def isDeparture : Request → Bool
  | leaveGroup .. => true
  | _ => false

def isPreparation : Request → Bool
  | prepareRotation .. => true
  | _ => false

def isPublication : Request → Bool
  | publishRotation .. => true
  | _ => false

/-- Whether a request is for the outputs that are pending. -/
def isInquiry : Request → Bool
  | pendingOutputs .. => true
  | _ => false

/-- Whether a request is for keys of the log; only fetch loops ask for them. -/
def isFetch : Request → Bool
  | fetchKeys .. => true
  | _ => false

/-- Whether a request is one of those by which an output is resolved. -/
def isResolving : Request → Bool
  | deriveKey .. | commitKey .. => true
  | _ => false

/-- Whether a request is one of those of the rounds of a finish run. -/
def isOfRound : Request → Bool
  | deriveKey .. | commitKey .. | fetchKeys .. => true
  | _ => false

/-- Whether a request changes the store. -/
def isWrite : Request → Bool
  | writeStore .. => true
  | _ => false

end Keyring.Request
