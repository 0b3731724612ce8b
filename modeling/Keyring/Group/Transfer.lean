import Keyring.Group.Storage
import Keyring.Page.Basic

namespace Keyring.Group

open Keyring.Transfer

/-- A page as it is sent. -/
structure SealedPage where
  index : UInt64
  keyCount : UInt64
  payload : String

def sealFor (recipientKey : String) (page : Page) : Action SealedPage := do
  let payload ← Attempt.request (.sealPage page.payload page.span.size.toNat recipientKey)
  return ⟨page.index, page.span.size, payload⟩

/-- Sends a page after the first, and tells what became of it. -/
def upload (kind : Kind) (sessionId recipient : String) (page : SealedPage) :
    Action PageResult := do
  let g ← Attempt.get
  let result ← Attempt.outcome (Attempt.request (.uploadPage g.actor.token kind g.record.groupId
    sessionId recipient page.index page.payload))
  return ⟨page.index, page.keyCount, result⟩

/-- The signals about a page that was sent. -/
def uploadSignals (sessionId : String) (p : PageResult) : List Signal :=
  match p.result with
  | .ok () => [.metric (.pageUploaded true)]
  | .error e =>
    [.metric (.pageUploaded false),
      .notice (.pageUploadFailed sessionId p.index.toNat e.message)]

/-- The pages after the first; an open session expects one even where nothing is left to send. -/
def laterPages (keys : List Key) (paging : Config.Paging) : List Page :=
  if hs : paging.pageSize = 0 then [] else Page.following keys paging.pageSize paging.boundary hs 1

/-- Sends the history to a recipient. A failure to seal a page or to open the transfer ends it.
The pages after the first need not wait for one another; here they are sent in their order, each
after the answer to the one before, so that one that is never answered keeps the later ones back. -/
def transfer (paging : Config.Paging) (kind : Kind) (recipient recipientKey : String) :
    Action Report := do
  let g ← Attempt.get
  let keys := g.record.history.keys
  let groupId := g.record.groupId
  let first ← Attempt.settle (Page.ofKeys keys 0 paging.pageSize paging.boundary)
  let opening ← sealFor recipientKey first
  let sessionId ← Attempt.request (.openTransfer g.actor.token kind groupId recipient keys.length
    g.record.rank opening.payload)
  match Session.ofId sessionId with
  | .notRequired =>
    Attempt.notice (.sessionNotRequired groupId recipient kind.name)
    return ⟨kind, .notRequired, first.span.more, []⟩
  | .opened id =>
    if !first.span.more then
      Attempt.notice (.sessionWithoutMore id)
    let pages ← (laterPages keys paging).mapM (sealFor recipientKey)
    let results ← pages.mapM (upload kind id recipient)
    Attempt.tellAll (results.flatMap (uploadSignals id))
    let report : Report := ⟨kind, .opened id, first.span.more, results⟩
    Attempt.notice (.transferEnded groupId recipient kind.name report.uploaded report.failed.length)
    return report

def invite (userId recipientKey : String) : Action Report := do
  let g ← Attempt.get
  Attempt.settle (g.record.requireRank "invite members" g.config.ranks.invite)
  let report ← transfer g.config.keys .invite userId recipientKey
  Attempt.settle report.result

def listJoins (cursor : Option JoinRequest) : Action (List JoinRequest) := do
  let g ← Attempt.get
  Attempt.settle (g.record.requireRank "list join requests" g.config.ranks.joinRequests)
  Attempt.request (.listJoins g.actor.token g.record.groupId g.record.rank cursor)

def accept (userId recipientKey : String) : Action Report := do
  let g ← Attempt.get
  Attempt.settle (g.record.requireRank "accept join requests" g.config.ranks.joinRequests)
  let report ← transfer g.config.keys .acceptJoinRequest userId recipientKey
  Attempt.settle report.result

def reject (userId : String) : Action Unit := do
  let g ← Attempt.get
  Attempt.settle (g.record.requireRank "reject join requests" g.config.ranks.joinRequests)
  let _ ← Attempt.request (.rejectJoin g.actor.token g.record.groupId g.record.rank userId)
  Attempt.notice (.joinRejected g.record.groupId userId)

/-- Leaves the group; the stored record stays. -/
def leave : Action Unit := do
  let g ← Attempt.get
  let _ ← Attempt.request (.leaveGroup g.actor.token g.record.groupId)
  Attempt.notice (.groupLeft g.record.groupId g.actor.userId)

end Keyring.Group
