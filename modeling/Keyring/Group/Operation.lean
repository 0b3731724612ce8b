import Keyring.Group.Rotation
import Keyring.Group.Transfer
import Keyring.Program.Run

namespace Keyring.Group

/-- An operation on a group, with the type of its result. -/
inductive Operation : Type → Type where
  | persist : Operation Unit
  | fetch : Operation Nat
  | invite (userId recipientKey : String) : Operation Transfer.Report
  | listJoins (cursor : Option JoinRequest) : Operation (List JoinRequest)
  | accept (userId recipientKey : String) : Operation Transfer.Report
  | reject (userId : String) : Operation Unit
  | leave : Operation Unit
  | prepare : Operation Rotation.Artifact
  | publish : Operation Unit
  | rotate : Operation Unit
  | finish : Operation Rotation.Outcome
  /-- A finish run under the time limit of the configuration. -/
  | finishInTime : Operation Rotation.Outcome

namespace Operation

variable {α S : Type}

def action : Operation α → Action α
  | persist => Group.persist
  | fetch => Group.fetch
  | invite userId recipientKey => Group.invite userId recipientKey
  | listJoins cursor => Group.listJoins cursor
  | accept userId recipientKey => Group.accept userId recipientKey
  | reject userId => Group.reject userId
  | leave => Group.leave
  | prepare => Group.prepare
  | publish => Group.publish
  | rotate => Group.rotate
  | finish => Group.finish
  | finishInTime => Group.finish

def run (w : World S) (fuel : Nat) (op : Operation α) (g : Group) (world : S) :
    Run Group S (Except Failure α) :=
  match op with
  | finishInTime =>
    Program.runWithin w fuel g.config.rotation.timeout Group.finish.run Group.finishExpired.run g
      world
  | op => op.action.run.run w fuel g world

end Operation

end Keyring.Group
