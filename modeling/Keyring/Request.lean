import Keyring.Actor
import Keyring.JoinRequest
import Keyring.Key.Basic
import Keyring.Rotation.Basic
import Keyring.Transfer.Basic

namespace Keyring

/-- Who answers a request. -/
inductive Party where
  | server
  | engine
  | store
  deriving DecidableEq, Repr

/-- A request. Requests to the server carry the user's token. -/
inductive Request where
  /-- The first page of a transfer, with the length of the whole history. -/
  | openTransfer (token : String) (kind : Transfer.Kind) (groupId userId : String) (keyCount : Nat)
      (rank : UInt32) (payload : String)
  /-- A page after the first. -/
  | uploadPage (token : String) (kind : Transfer.Kind) (groupId sessionId userId : String)
      (index : UInt64) (payload : String)
  | rejectJoin (token groupId : String) (rank : UInt32) (userId : String)
  /-- The join requests after a cursor. -/
  | listJoins (token groupId : String) (rank : UInt32) (cursor : Option JoinRequest)
  | leaveGroup (token groupId : String)
  | publishRotation (token groupId : String) (artifact : Rotation.Artifact)
  | pendingOutputs (token groupId : String)
  /-- The key that an output gave. -/
  | commitKey (token groupId : String) (output : Rotation.Output) (key : Key)
  /-- The keys after a cursor. -/
  | fetchKeys (token groupId : String) (cursor : Cursor)
  /-- A page encrypted for a new member. -/
  | sealPage (payload : String) (keyCount : Nat) (recipientKey : String)
  | prepareRotation (latest : Key) (publicKey : String)
  | deriveKey (preKey : Key) (output : Rotation.Output) (actor : Actor)
  | readStore (storeKey : String)
  | writeStore (storeKey value : String)
  deriving DecidableEq, Repr

namespace Request

abbrev Answer : Request → Type
  | openTransfer .. => String
  | uploadPage .. => Unit
  | rejectJoin .. => Unit
  | listJoins .. => List JoinRequest
  | leaveGroup .. => Unit
  | publishRotation .. => Unit
  | pendingOutputs .. => List Rotation.Output
  | commitKey .. => Unit
  | fetchKeys .. => List Key
  | sealPage .. => String
  | prepareRotation .. => Rotation.Artifact
  | deriveKey .. => Key
  | readStore _ => Option String
  | writeStore .. => Unit

abbrev Reply (q : Request) : Type :=
  Except Failure q.Answer

def party : Request → Party
  | sealPage .. | prepareRotation .. | deriveKey .. => .engine
  | readStore _ | writeStore .. => .store
  | _ => .server

def name : Request → String
  | openTransfer _ .invite .. => "invite_user"
  | openTransfer _ .acceptJoinRequest .. => "accept_join_request"
  | uploadPage _ .invite .. => "invite_user_page"
  | uploadPage _ .acceptJoinRequest .. => "accept_join_request_page"
  | rejectJoin .. => "reject_join_request"
  | listJoins .. => "list_join_requests"
  | leaveGroup .. => "leave_group"
  | publishRotation .. => "publish_rotation"
  | pendingOutputs .. => "pending_rotation_outputs"
  | commitKey .. => "commit_rotated_key"
  | fetchKeys .. => "fetch_keys"
  | sealPage .. => "prepare_keys_for_new_member"
  | prepareRotation .. => "prepare_rotation"
  | deriveKey .. => "derive_rotated_key"
  | readStore _ => "store_get"
  | writeStore .. => "store_set"

end Request

end Keyring
