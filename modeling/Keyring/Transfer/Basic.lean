import Keyring.Json.Fields

namespace Keyring.Transfer

/-- What a transfer belongs to. -/
inductive Kind where
  | invite
  | acceptJoinRequest
  deriving DecidableEq, Repr

namespace Kind

def name : Kind → String
  | invite => "invite"
  | acceptJoinRequest => "accept_join_request"

def tag : Kind → String
  | invite => "Invite"
  | acceptJoinRequest => "AcceptJoinRequest"

def ofTag? (s : String) : Option Kind :=
  [invite, acceptJoinRequest].find? (·.tag == s)

def toJson (k : Kind) : Json :=
  .text k.tag

def ofJson (j : Json) : Except ReadError Kind := do
  match ofTag? (← j.asChoice) with
  | some k => .ok k
  | none => .error .malformed

end Kind

/-- What the server wants after the first page. -/
inductive Session where
  /-- Nothing more. -/
  | notRequired
  /-- The other pages, under this id. -/
  | opened (id : String)
  deriving DecidableEq, Repr

/-- The session that an answer to the first page names; an empty id names none. -/
def Session.ofId (id : String) : Session :=
  if id.isEmpty then .notRequired else .opened id

/-- What became of a page after the first. -/
structure PageResult where
  index : UInt64
  keyCount : UInt64
  result : Except Failure Unit

namespace PageResult

def succeeded (p : PageResult) : Bool :=
  match p.result with
  | .ok () => true
  | .error _ => false

end PageResult

/-- A transfer that came through, with the fate of each page after the first. -/
structure Report where
  kind : Kind
  session : Session
  /-- Whether another page followed the first. -/
  firstPageMore : Bool
  /-- The pages after the first, by index. -/
  pages : List PageResult

namespace Report

def uploaded (r : Report) : Nat :=
  r.pages.countP PageResult.succeeded

def failed (r : Report) : List Nat :=
  (r.pages.filter (! ·.succeeded)).map (·.index.toNat)

/-- The report if every page arrived, a failure if not. -/
def result (r : Report) : Except Failure Report :=
  match r.session with
  | .notRequired => .ok r
  | .opened id =>
    if r.failed.isEmpty then .ok r
    else .error (.incompleteUpload id r.failed r.pages.length)

end Report

end Keyring.Transfer
