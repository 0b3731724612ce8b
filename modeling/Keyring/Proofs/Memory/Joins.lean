import Mathlib.Data.List.Nodup
import Mathlib.Data.Prod.Lex
import Mathlib.Data.String.Basic
import Keyring.Proofs.Memory.Frame

namespace Keyring

namespace JoinRequest

/-- By time first; requests of one time by user. -/
def place (r : JoinRequest) : ℕ ×ₗ String :=
  toLex (r.time.toNat, r.userId)

theorem place_injective : Function.Injective place := by
  rintro ⟨user, time⟩ ⟨user', time'⟩ h
  have hpair : (time.toNat, user) = (time'.toNat, user') := toLex.injective h
  rw [Prod.mk.injEq, UInt64.toNat_inj] at hpair
  obtain ⟨rfl, rfl⟩ := hpair
  rfl

theorem before_iff (a b : JoinRequest) : a.before b = true ↔ a.place < b.place := by
  rw [place, place, Prod.Lex.toLex_lt_toLex, before]
  simp [UInt64.lt_iff_toNat_lt, UInt64.toNat_inj]

theorem not_before_iff (a b : JoinRequest) : (!b.before a) = true ↔ a.place ≤ b.place := by
  rw [Bool.not_eq_true', Bool.eq_false_iff, ne_eq, before_iff, not_lt]

theorem before_trans {a b c : JoinRequest} (hab : a.before b = true) (hbc : b.before c = true) :
    a.before c = true := by
  rw [before_iff] at *
  exact hab.trans hbc

theorem filter_before_of_pairwise {front back : List JoinRequest} {last : JoinRequest}
    (h : (front ++ last :: back).Pairwise fun a b => a.before b) :
    (front ++ last :: back).filter last.before = back := by
  obtain ⟨-, hback, hfront⟩ := List.pairwise_append.mp h
  have hahead : ∀ a ∈ front, ¬ last.before a = true := by
    intro a ha hbefore
    rw [before_iff] at hbefore
    exact absurd ((before_iff a last).mp (hfront a ha last (by simp))) hbefore.asymm
  have hself : ¬ last.before last = true := by simp [before_iff]
  rw [List.filter_append, List.filter_eq_nil_iff.mpr hahead, List.nil_append,
    List.filter_cons_of_neg hself, List.filter_eq_self]
  exact (List.pairwise_cons.mp hback).1

end JoinRequest

namespace Memory

open JoinRequest

namespace Server

variable {s : Server}

def sortedJoins (s : Server) : List JoinRequest :=
  s.joinRequests.mergeSort fun a b => !b.before a

/-- The requests after a cursor, in order. -/
def joinsAfter (s : Server) : Option JoinRequest → List JoinRequest
  | none => s.sortedJoins
  | some c => s.sortedJoins.filter c.before

theorem listJoins_eq (s : Server) (cursor : Option JoinRequest) :
    s.listJoins cursor = (s.joinsAfter cursor).take listLimit := by
  cases cursor with
  | none => rfl
  | some c => rfl

theorem pairwise_sortedJoins (h : s.joinRequests.Nodup) :
    s.sortedJoins.Pairwise fun a b => a.before b := by
  have hsorted : s.sortedJoins.Pairwise fun a b => (!b.before a) = true := by
    refine List.pairwise_mergeSort ?_ ?_ _
    · intro a b c hab hbc
      rw [not_before_iff] at *
      exact hab.trans hbc
    · intro a b
      rw [Bool.or_eq_true, not_before_iff, not_before_iff]
      exact le_total _ _
  have hdistinct : s.sortedJoins.Nodup := (List.mergeSort_perm _ _).nodup_iff.mpr h
  refine (hsorted.and hdistinct).imp ?_
  rintro a b ⟨hle, hne⟩
  rw [before_iff]
  exact lt_of_le_of_ne ((not_before_iff a b).mp hle) (place_injective.ne hne)

theorem pairwise_joinsAfter (h : s.joinRequests.Nodup) (cursor : Option JoinRequest) :
    (s.joinsAfter cursor).Pairwise fun a b => a.before b := by
  cases cursor with
  | none => exact pairwise_sortedJoins h
  | some c => exact (pairwise_sortedJoins h).filter _

theorem joinsAfter_some {cursor : Option JoinRequest} {last : JoinRequest}
    (hlast : last ∈ s.joinsAfter cursor) :
    s.joinsAfter (some last) = (s.joinsAfter cursor).filter last.before := by
  cases cursor with
  | none => rfl
  | some c =>
      obtain ⟨-, hc⟩ := List.mem_filter.mp hlast
      simp only [joinsAfter, List.filter_filter]
      refine List.filter_congr fun a _ => ?_
      rw [Bool.eq_iff_iff, Bool.and_eq_true]
      exact ⟨fun ha => ⟨ha, before_trans hc ha⟩, And.left⟩

theorem joinsAfter_getLast {cursor : Option JoinRequest} {last : JoinRequest}
    (h : s.joinRequests.Nodup) (hlast : (s.listJoins cursor).getLast? = some last) :
    s.joinsAfter (some last) = (s.joinsAfter cursor).drop listLimit := by
  rw [listJoins_eq] at hlast
  obtain ⟨front, hfront⟩ := List.getLast?_eq_some_iff.mp hlast
  have hsplit : s.joinsAfter cursor = front ++ last :: (s.joinsAfter cursor).drop listLimit := by
    calc s.joinsAfter cursor
        = (s.joinsAfter cursor).take listLimit ++ (s.joinsAfter cursor).drop listLimit :=
          (List.take_append_drop ..).symm
      _ = front ++ last :: (s.joinsAfter cursor).drop listLimit := by
          rw [hfront, List.append_assoc, List.singleton_append]
  have hordered := pairwise_joinsAfter h cursor
  have hmem : last ∈ s.joinsAfter cursor := by
    rw [hsplit]
    simp
  rw [joinsAfter_some hmem]
  rw [hsplit] at hordered
  conv_lhs => rw [hsplit]
  exact filter_before_of_pairwise hordered

end Server

/-- The pages that come back when requests to join are listed from a cursor on, each page after the
last request of the one before, until a page is empty. -/
inductive Listing (token groupId : String) (rank : UInt32) :
    Option JoinRequest → State → List (List JoinRequest) → State → Prop where
  | stop {cursor : Option JoinRequest} {s s' : State}
      (hanswer : world.answer (.listJoins token groupId rank cursor) s = (some (.ok []), s')) :
      Listing token groupId rank cursor s [] s'
  | page {cursor : Option JoinRequest} {s s' s'' : State} {page : List JoinRequest}
      {last : JoinRequest} {pages : List (List JoinRequest)}
      (hanswer : world.answer (.listJoins token groupId rank cursor) s = (some (.ok page), s'))
      (hlast : page.getLast? = some last)
      (hrest : Listing token groupId rank (some last) s' pages s'') :
      Listing token groupId rank cursor s (page :: pages) s''

namespace Listing

variable {token groupId : String} {rank : UInt32} {cursor : Option JoinRequest} {s s' : State}
  {pages : List (List JoinRequest)}

theorem answer_listJoins (token groupId : String) (rank : UInt32) (cursor : Option JoinRequest)
    (s : State) : world.answer (.listJoins token groupId rank cursor) s =
      (some (.ok (s.server.listJoins cursor)), s) :=
  rfl

theorem eq_of_answer {page : List JoinRequest}
    (hanswer : world.answer (.listJoins token groupId rank cursor) s = (some (.ok page), s')) :
    s.server.listJoins cursor = page ∧ s' = s := by
  rw [answer_listJoins, Prod.mk.injEq, Option.some.injEq, Except.ok.injEq] at hanswer
  exact ⟨hanswer.1, hanswer.2.symm⟩

/-- A listing changes nothing; its pages are of limited length, and make up what stands after its
cursor. -/
theorem pages_spec (h : s.server.joinRequests.Nodup)
    (hlisting : Listing token groupId rank cursor s pages s') :
    s' = s ∧ (∀ page ∈ pages, page.length ≤ Server.listLimit) ∧
      pages.flatten = s.server.joinsAfter cursor := by
  induction hlisting with
  | stop hanswer =>
      obtain ⟨hpage, rfl⟩ := eq_of_answer hanswer
      rw [Server.listJoins_eq, List.take_eq_nil_iff] at hpage
      exact ⟨rfl, by simp, (hpage.resolve_left (by decide)).symm⟩
  | page hanswer hlast _ ih =>
      obtain ⟨rfl, rfl⟩ := eq_of_answer hanswer
      obtain ⟨rfl, hlengths, hflatten⟩ := ih h
      refine ⟨rfl, List.forall_mem_cons.mpr ⟨?_, hlengths⟩, ?_⟩
      · rw [Server.listJoins_eq]
        exact List.length_take_le _ _
      · rw [List.flatten_cons, hflatten, Server.joinsAfter_getLast h hlast, Server.listJoins_eq,
          List.take_append_drop]

theorem exists_pages (h : s.server.joinRequests.Nodup) (cursor : Option JoinRequest) :
    ∃ pages, Listing token groupId rank cursor s pages s := by
  -- By induction on what is left to list: a page that is not empty takes something away from it.
  induction hn : (s.server.joinsAfter cursor).length using Nat.strongRecOn generalizing cursor with
  | ind n ih =>
      subst hn
      cases hlast : (s.server.listJoins cursor).getLast? with
      | none =>
          rw [List.getLast?_eq_none_iff] at hlast
          exact ⟨[], .stop (by rw [answer_listJoins, hlast])⟩
      | some last =>
          have hne : s.server.joinsAfter cursor ≠ [] := by
            rintro hnil
            rw [Server.listJoins_eq, hnil] at hlast
            exact nomatch hlast
          have hshorter : (s.server.joinsAfter (some last)).length <
              (s.server.joinsAfter cursor).length := by
            rw [Server.joinsAfter_getLast h hlast, List.length_drop, Server.listLimit]
            have := List.length_pos_iff.mpr hne
            omega
          obtain ⟨pages, hpages⟩ := ih _ hshorter (some last) rfl
          exact ⟨_ :: pages, .page (answer_listJoins ..) hlast hpages⟩

end Listing

/-- Something that happens at a simulated server: a user asks to join, or a request of a member is
answered. -/
inductive Move where
  | push (r : JoinRequest)
  | call (q : Request)

namespace Move

def perform (s : State) : Move → State
  | push r => { s with server := s.server.pushJoin r }
  | call q => (world.answer q s).2

def performAll (moves : List Move) (s : State) : State :=
  moves.foldl perform s

def pushed (moves : List Move) : List JoinRequest :=
  moves.filterMap fun
    | push r => some r
    | call _ => none

/-- Whether a move accepts or rejects a request to join, or tries to. -/
def decides (r : JoinRequest) : Move → Bool
  | call (.openTransfer _ .acceptJoinRequest _ userId ..) => r.userId = userId
  | call (.rejectJoin _ _ _ userId) => r.userId = userId
  | _ => false

/-- The requests that were made and not decided since. -/
def outstanding : List Move → List JoinRequest
  | [] => []
  | push r :: rest => if rest.any (decides r) then outstanding rest else r :: outstanding rest
  | call _ :: rest => outstanding rest

theorem outstanding_sublist (moves : List Move) : (outstanding moves).Sublist (pushed moves) := by
  induction moves with
  | nil => exact List.Sublist.slnil
  | cons m rest ih =>
      cases m with
      | call q => exact ih
      | push r =>
          rw [outstanding]
          split
          · exact ih.cons r
          · exact ih.cons_cons r

theorem joinRequests_rejectJoin (server : Server) (userId : String) :
    (server.rejectJoin userId).1.joinRequests =
      server.joinRequests.filter (·.userId ≠ userId) := by
  unfold Server.rejectJoin
  split
  · rfl
  · rename_i hnone
    refine (List.filter_eq_self.mpr fun r hr => ?_).symm
    simp only [List.any_eq_true, not_exists, not_and] at hnone
    simpa using hnone r hr

/-- A move adds the request that it makes, and takes away those that it decides. -/
theorem joinRequests_perform (s : State) (m : Move) :
    (m.perform s).server.joinRequests =
      (s.server.joinRequests.filter fun r => !m.decides r) ++ pushed [m] := by
  -- All calls but two kinds decide nothing and leave the requests as they are.
  have hkept : ∀ q : Request, (∀ r, decides r (call q) = false) →
      (world.answer q s).2.server.joinRequests = s.server.joinRequests →
      ((call q).perform s).server.joinRequests =
        (s.server.joinRequests.filter fun r => !(call q).decides r) ++ pushed [call q] := by
    intro q hdecides hanswer
    simp [hdecides, perform, hanswer, pushed]
  cases m with
  | push r => simp [perform, Server.pushJoin, decides, pushed]
  | call q =>
      cases q with
      | openTransfer token kind groupId userId keyCount rank payload =>
          cases kind with
          | invite => exact hkept _ (fun _ => rfl) rfl
          | acceptJoinRequest =>
              simp only [pushed, List.filterMap_cons_none, List.filterMap_nil, List.append_nil,
                decides, perform, world, State.answer, Server.openTransfer]
              refine List.filter_congr fun r _ => ?_
              simp
      | rejectJoin token groupId rank userId =>
          simp only [pushed, List.filterMap_cons_none, List.filterMap_nil, List.append_nil,
            decides, perform, world, State.answer, joinRequests_rejectJoin]
          refine List.filter_congr fun r _ => ?_
          simp
      | _ =>
          exact hkept _ (fun _ => rfl)
            (State.part_answer Server.joinRequests (by intros; rfl) rfl s)

theorem joinRequests_performAll (moves : List Move) (s : State) :
    (performAll moves s).server.joinRequests =
      (s.server.joinRequests.filter fun r => !moves.any (decides r)) ++ outstanding moves := by
  induction moves generalizing s with
  | nil => simp [performAll, outstanding]
  | cons m rest ih =>
      have hrun : performAll (m :: rest) s = performAll rest (m.perform s) := rfl
      rw [hrun, ih, joinRequests_perform, List.filter_append, List.filter_filter,
        List.append_assoc]
      -- Left: what was there before; right: what the first move adds, if nothing decides it later.
      congr 1
      · refine List.filter_congr fun r _ => ?_
        rw [List.any_cons, Bool.not_or, Bool.and_comm]
      · cases m with
        | call q => rfl
        | push r =>
            rw [outstanding]
            cases hdecided : rest.any (decides r) <;> simp [pushed, hdecided]

end Move

theorem answer_rejectJoin (token groupId : String) (rank : UInt32) (userId : String) (s : State) :
    ((∀ r ∈ s.server.joinRequests, r.userId ≠ userId) ∧
        world.answer (.rejectJoin token groupId rank userId) s =
          (some (.error (.gateway ("no join request from " ++ userId))), s)) ∨
      ((∃ r ∈ s.server.joinRequests, r.userId = userId) ∧
        (world.answer (.rejectJoin token groupId rank userId) s).1 = some (.ok ())) := by
  by_cases hany : s.server.joinRequests.any (·.userId == userId) = true
  · right
    refine ⟨by simpa using hany, ?_⟩
    simp only [world, State.answer, Server.rejectJoin, hany, if_true]
  · left
    refine ⟨by simpa using hany, ?_⟩
    simp only [world, State.answer, Server.rejectJoin, hany, Bool.false_eq_true, if_false]

open Move in
/-- After any moves, listings come to an end with just the requests that are outstanding, in order;
and a rejection fails just for a user without one. -/
theorem listing_outstanding (moves : List Move) (s : State) (hnone : s.server.joinRequests = [])
    (hdistinct : (pushed moves).Nodup) (token groupId : String) (rank : UInt32) :
    (∃ pages s', Listing token groupId rank none (performAll moves s) pages s') ∧
      (∀ pages s', Listing token groupId rank none (performAll moves s) pages s' →
        (∀ page ∈ pages, page.length ≤ 50) ∧ pages.flatten.Perm (outstanding moves) ∧
          pages.flatten.Pairwise fun a b =>
            a.time < b.time ∨ a.time = b.time ∧ a.userId < b.userId) ∧
      ∀ userId, ∃ r s',
        world.answer (.rejectJoin token groupId rank userId) (performAll moves s) = (some r, s') ∧
          ((∃ e, r = .error e) ↔ ∀ r ∈ outstanding moves, r.userId ≠ userId) ∧
          ((∃ e, r = .error e) → s' = performAll moves s) := by
  have hstate : (performAll moves s).server.joinRequests = outstanding moves := by
    rw [joinRequests_performAll, hnone]
    rfl
  have hnodup : (performAll moves s).server.joinRequests.Nodup := by
    rw [hstate]
    exact hdistinct.sublist (outstanding_sublist moves)
  refine ⟨?_, ?_, ?_⟩
  · obtain ⟨pages, hpages⟩ := Listing.exists_pages hnodup none
    exact ⟨pages, _, hpages⟩
  · intro pages s' hlisting
    obtain ⟨-, hlengths, hflatten⟩ := hlisting.pages_spec hnodup
    refine ⟨hlengths, ?_, ?_⟩
    · rw [hflatten, ← hstate]
      exact List.mergeSort_perm _ _
    · rw [hflatten]
      refine (Server.pairwise_joinsAfter hnodup none).imp fun {a b} hbefore => ?_
      simpa [JoinRequest.before] using hbefore
  · intro userId
    rcases answer_rejectJoin token groupId rank userId (performAll moves s) with
      ⟨hnobody, hanswer⟩ | ⟨⟨r, hr, huser⟩, hanswer⟩
    · rw [hstate] at hnobody
      exact ⟨_, _, hanswer, ⟨fun _ => hnobody, fun _ => ⟨_, rfl⟩⟩, fun _ => rfl⟩
    · rw [hstate] at hr
      refine ⟨.ok (), _, Prod.ext hanswer rfl, ⟨?_, ?_⟩, ?_⟩
      · rintro ⟨e, he⟩
        exact nomatch he
      · exact fun hall => absurd huser (hall r hr)
      · rintro ⟨e, he⟩
        exact nomatch he

open Move in
theorem listing_outstanding_again :
    let moves : List Move := [.push ⟨"bob", 1⟩, .push ⟨"carol", 2⟩,
      .call (.rejectJoin "token" "group" 1 "bob"), .push ⟨"bob", 3⟩]
    ∃ pages s', Listing "token" "group" 1 none (performAll moves {}) pages s' ∧
      pages.flatten.Perm [⟨"carol", 2⟩, ⟨"bob", 3⟩] := by
  intro moves
  obtain ⟨⟨pages, s', hpages⟩, hlisted, -⟩ :=
    listing_outstanding moves {} rfl (by decide) "token" "group" 1
  exact ⟨pages, s', hpages, (hlisted pages s' hpages).2.1⟩

end Memory

end Keyring
