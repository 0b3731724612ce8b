import Keyring.Proofs.Group.Delivery
import Keyring.Proofs.Program.Raised

namespace Keyring

namespace Group

open Attempt Keyring.Transfer

variable {S : Type} {w : World S} {fuel : Nat} {g : Group} {e : Failure}

theorem sealFor_passesOn (recipientKey : String) (page : Page) :
    PassesOn w fuel e (sealFor recipientKey page) g :=
  (PassesOn.request _).bind fun _ _ => .pure _

theorem upload_passesOn (kind : Kind) (sessionId recipient : String) (page : SealedPage) :
    PassesOn w fuel e (upload kind sessionId recipient page) g :=
  .get_bind ((PassesOn.request _).outcome.bind fun _ _ => .pure _)

/-- For a page size that is not zero a transfer raises no failure of its own. -/
theorem transfer_passesOn {paging : Config.Paging} (hsize : paging.pageSize ≠ 0) (kind : Kind)
    (recipient recipientKey : String) :
    PassesOn w fuel e (transfer paging kind recipient recipientKey) g := by
  refine .get_bind ?_
  have hfirst : Page.ofKeys g.record.history.keys 0 paging.pageSize paging.boundary ≠ .error e := by
    rw [Page.ofKeys, Page.spanAt, if_neg hsize]
    simp [Except.map]
  refine (PassesOn.settle hfirst).bind fun first _ => ?_
  refine (sealFor_passesOn recipientKey first).bind fun opening _ => ?_
  refine (PassesOn.request _).bind fun sessionId _ => ?_
  cases Session.ofId sessionId with
  | notRequired => exact (PassesOn.tellAll _).bind fun _ _ => .pure _
  | opened id =>
      have hrest : ∀ g', PassesOn w fuel e (do
          let pages ← (laterPages g.record.history.keys paging).mapM (sealFor recipientKey)
          let results ← pages.mapM (upload kind id recipient)
          Attempt.tellAll (results.flatMap (uploadSignals id))
          let report : Report := ⟨kind, .opened id, first.span.more, results⟩
          Attempt.notice (.transferEnded g.record.groupId recipient kind.name report.uploaded
            report.failed.length)
          return report) g' := by
        intro g'
        have hseal : ∀ (pages : List Page) g',
            PassesOn w fuel e (pages.mapM (sealFor recipientKey)) g' :=
          PassesOn.mapM fun page _ => sealFor_passesOn recipientKey page
        have hupload : ∀ (pages : List SealedPage) g',
            PassesOn w fuel e (pages.mapM (upload kind id recipient)) g' :=
          PassesOn.mapM fun page _ => upload_passesOn kind id recipient page
        refine (hseal _ g').bind fun pages g' => (hupload pages g').bind fun results g' => ?_
        exact (PassesOn.tellAll _).bind fun _ _ => (PassesOn.tellAll _).bind fun _ _ => .pure _
      dsimp only
      split
      · exact (PassesOn.tellAll _).bind fun _ g' => hrest g'
      · exact hrest _

theorem transferring_passesOn (hsize : g.config.keys.pageSize ≠ 0) (kind : Kind)
    (userId recipientKey : String) :
    PassesOn w fuel .invalidPageSize (transferring kind userId recipientKey).action g := by
  have hrank : ∀ action required, g.record.requireRank action required ≠ .error .invalidPageSize := by
    intro action required
    rw [Record.requireRank]
    split <;> simp
  have hresult : ∀ report : Report, report.result ≠ .error .invalidPageSize := by
    intro report
    rw [Report.result]
    split
    · simp
    · split <;> simp
  have hrest : ∀ kind g', PassesOn w fuel .invalidPageSize (do
      let report ← transfer g.config.keys kind userId recipientKey
      Attempt.settle report.result) g' := by
    intro kind g'
    refine (transfer_passesOn hsize kind userId recipientKey).bind fun report _ => ?_
    exact .settle (hresult report)
  cases kind with
  | invite => exact .get_bind ((PassesOn.settle (hrank _ _)).bind fun _ => hrest .invite)
  | acceptJoinRequest =>
      exact .get_bind ((PassesOn.settle (hrank _ _)).bind fun _ => hrest .acceptJoinRequest)

end Group

namespace Memory

variable {e : Failure} {s : State}

theorem State.behind_ne {α : Type} {stop : Clock → Bool × Clock}
    {reply : State → Except Failure α × State} (hreply : ∀ s, (reply s).1 ≠ .error e) :
    (s.behind stop reply).1 ≠ some (.error e) := by
  rw [behind]
  split
  · simp
  · exact fun h => hreply _ (Option.some.inj h)

theorem world_never : world.Never .invalidPageSize := by
  intro q s
  show (State.answer q s).1 ≠ some (.error .invalidPageSize)
  cases q with
  | uploadPage token kind groupId sessionId userId index payload =>
      have hreply : (s.server.receivePage kind sessionId userId index payload).2 ≠
          .error .invalidPageSize := by
        rw [Server.receivePage]
        split
        · simp
        · split <;> simp
      exact fun h => hreply (Option.some.inj h)
  | rejectJoin token groupId rank userId =>
      have hreply : (s.server.rejectJoin userId).2 ≠ .error .invalidPageSize := by
        rw [Server.rejectJoin]
        split <;> simp
      exact fun h => hreply (Option.some.inj h)
  | deriveKey preKey output actor =>
      have hreply : (s.engine.derive preKey output actor).2 ≠ .error .invalidPageSize := by
        rw [Engine.derive]
        split
        · simp
        · split <;> simp
      exact fun h => hreply (Option.some.inj h)
  | fetchKeys token groupId cursor =>
      refine State.behind_ne fun s => ?_
      show (s.server.fetch cursor).2 ≠ .error .invalidPageSize
      rw [Server.fetch]
      split
      · simp
      · dsimp only
        split <;> simp
  | readStore => exact State.behind_ne fun _ => by simp
  | writeStore => exact State.behind_ne fun _ => by simp
  | _ => simp [State.answer]

end Memory

end Keyring
