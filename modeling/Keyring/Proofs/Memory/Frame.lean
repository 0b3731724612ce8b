import Keyring.Memory.World
import Keyring.Proofs.Program.Requests

namespace Keyring.Memory

namespace Server

theorem exists_fetch_eq (s : Server) (c : Cursor) : ∃ log delayed scripted cursors,
    (s.fetch c).1 = { s with log, delayed, scripted, cursors } := by
  unfold fetch
  split
  · exact ⟨_, _, _, _, rfl⟩
  · dsimp only
    split
    · exact ⟨_, _, _, _, rfl⟩
    · exact ⟨_, _, _, _, rfl⟩

theorem exists_receivePage_eq (s : Server) (kind : Transfer.Kind) (sessionId userId : String)
    (index : UInt64) (payload : String) :
    ∃ pages, (s.receivePage kind sessionId userId index payload).1 = { s with pages } := by
  unfold receivePage
  split
  · exact ⟨_, rfl⟩
  · split
    · exact ⟨_, rfl⟩
    · exact ⟨_, rfl⟩

theorem exists_rejectJoin_eq (s : Server) (userId : String) :
    ∃ joinRequests rejected, (s.rejectJoin userId).1 = { s with joinRequests, rejected } := by
  unfold rejectJoin
  split
  · exact ⟨_, _, rfl⟩
  · exact ⟨_, _, rfl⟩

end Server

namespace State

theorem behind_server {α β : Type} (part : Server → β) (stop : Clock → Bool × Clock)
    {reply : State → α × State} (hreply : ∀ s, part (reply s).2.server = part s.server)
    (s : State) : part (s.behind stop reply).2.server = part s.server := by
  unfold behind
  split
  · rfl
  · exact hreply _

/-- What no request can change, but for those that say who joins. -/
theorem part_answer {β : Type} (part : Server → β)
    (hpart : ∀ (server : Server) log delayed scripted cursors pending committed published pages
      left, part { server with
        log, delayed, scripted, cursors, pending, committed, published, pages, left } =
        part server)
    {q : Request} (hq : q.isAdmission = false) (s : State) :
    part (answer q s).2.server = part s.server := by
  cases q with
  | openTransfer => simp [Request.isAdmission] at hq
  | rejectJoin => simp [Request.isAdmission] at hq
  | fetchKeys token groupId cursor =>
      refine behind_server part _ (fun s => ?_) s
      obtain ⟨_, _, _, _, heq⟩ := s.server.exists_fetch_eq cursor
      exact (congrArg part heq).trans (hpart ..)
  | uploadPage token kind groupId sessionId userId index payload =>
      obtain ⟨_, heq⟩ := s.server.exists_receivePage_eq kind sessionId userId index payload
      exact (congrArg part heq).trans (hpart ..)
  | readStore key => exact behind_server part _ (fun _ => rfl) s
  | writeStore key text => exact behind_server part _ (fun _ => rfl) s
  | leaveGroup => exact hpart ..
  | publishRotation => exact hpart ..
  | commitKey => exact hpart ..
  | _ => rfl

theorem delay_answer (q : Request) (s : State) :
    (answer q s).2.server.delay = s.server.delay := by
  cases q with
  | openTransfer => rfl
  | rejectJoin token groupId rank userId =>
      obtain ⟨_, _, heq⟩ := s.server.exists_rejectJoin_eq userId
      exact (congrArg Server.delay heq :)
  | _ => exact part_answer Server.delay (by intros; rfl) rfl s

end State

end Keyring.Memory
