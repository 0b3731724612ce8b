import Keyring.Proofs.Memory.Joins

namespace Keyring.Memory

/-- The ids of the sessions that were opened, the first one first. -/
def OpeningRecord.sessions (openings : List OpeningRecord) : List String :=
  (openings.map sessionId).filter (· ≠ "")

theorem OpeningRecord.sessions_concat (openings : List OpeningRecord) (o : OpeningRecord) :
    sessions (openings ++ [o]) =
      sessions openings ++ if o.sessionId = "" then [] else [o.sessionId] := by
  by_cases hnone : o.sessionId = "" <;> simp [sessions, hnone]

/-- The sessions of a server have its ids in their order. -/
def Server.InOrder (server : Server) : Prop :=
  OpeningRecord.sessions server.openings =
    (List.range' 1 server.sessions).map server.sessionIds.id

example : ({} : Server).InOrder :=
  rfl

namespace Server.InOrder

variable {server : Server}

theorem nodup (h : server.InOrder) : (OpeningRecord.sessions server.openings).Nodup := by
  rw [h]
  exact List.Nodup.map (fun m n => server.sessionIds.id_injective m n) List.nodup_range'

theorem openTransfer (h : server.InOrder) (kind : Transfer.Kind) (groupId userId : String)
    (keyCount : Nat) (rank : UInt32) (payload : String) :
    (server.openTransfer kind groupId userId keyCount rank payload).1.InOrder := by
  unfold InOrder Server.openTransfer
  by_cases hlong : server.sessionThreshold < keyCount
  · simp only [hlong, if_true, OpeningRecord.sessions_concat]
    rw [if_neg (server.sessionIds.id_ne_empty _), h, List.range'_concat, List.map_append,
      Nat.one_mul, Nat.add_comm 1, List.map_singleton]
  · simp only [hlong, if_false, OpeningRecord.sessions_concat, if_true, List.append_nil]
    exact h

end Server.InOrder

theorem inOrder_perform (m : Move) {s : State} (h : s.server.InOrder) :
    (m.perform s).server.InOrder := by
  cases m with
  | push r => exact h
  | call q =>
      cases q with
      | openTransfer token kind groupId userId keyCount rank payload =>
          exact h.openTransfer kind groupId userId keyCount rank payload
      | rejectJoin token groupId rank userId =>
          obtain ⟨_, _, heq⟩ := s.server.exists_rejectJoin_eq userId
          exact (congrArg Server.InOrder heq).mpr h
      | _ => exact (State.part_answer Server.InOrder (by intros; rfl) rfl s).mpr h

/-- Whatever happens at a server, no two of its sessions have the same id. -/
theorem nodup_sessions (moves : List Move) {s : State} (h : s.server.InOrder) :
    (OpeningRecord.sessions (Move.performAll moves s).server.openings).Nodup := by
  refine Server.InOrder.nodup ?_
  induction moves generalizing s with
  | nil => exact h
  | cons m rest ih => exact ih (inOrder_perform m h)

end Keyring.Memory
