import Keyring.Proofs.Group.Archive

namespace Keyring.Group

open Attempt Memory

section Keys

variable {space groupId space' groupId' : String}

/-- A second way to read a store key, with a longer space and a shorter group id: the mark between
them comes once more behind its place, or once more half within it. -/
inductive Reread (space groupId space' groupId' : String) : Prop
  | behind (middle : String) (hspace : space' = space ++ "_id_" ++ middle)
      (hid : groupId = middle ++ "_id_" ++ groupId')
  | within (hspace : space' = space ++ "_id") (hid : groupId = "id_" ++ groupId')

theorem Reread.storeKey_eq (h : Reread space groupId space' groupId') :
    storeKey space groupId = storeKey space' groupId' := by
  cases h with
  | behind middle hspace hid =>
      rw [storeKey, storeKey, hspace, hid]
      simp only [String.append_assoc]
  | within hspace hid =>
      rw [storeKey, storeKey, hspace, hid]
      simp only [String.append_assoc]
      rfl

/-- Where a mark can come a second time in a text that begins with it. -/
theorem mark_append_eq {front rest rest' : List Char}
    (h : ['_', 'i', 'd', '_'] ++ rest = front ++ (['_', 'i', 'd', '_'] ++ rest')) :
    front = [] ∧ rest = rest' ∨
      (∃ middle, front = ['_', 'i', 'd', '_'] ++ middle ∧
        rest = middle ++ (['_', 'i', 'd', '_'] ++ rest')) ∨
      front = ['_', 'i', 'd'] ∧ rest = ['i', 'd', '_'] ++ rest' := by
  match front with
  | [] => exact .inl ⟨rfl, List.append_cancel_left h⟩
  | [_] => simp at h
  | [_, _] => simp at h
  | [_, _, _] =>
      simp only [List.cons_append, List.nil_append, List.cons.injEq, true_and] at h
      obtain ⟨rfl, rfl, rfl, rfl⟩ := h
      exact .inr (.inr ⟨rfl, rfl⟩)
  | _ :: _ :: _ :: _ :: middle =>
      simp only [List.cons_append, List.nil_append, List.cons.injEq] at h
      obtain ⟨rfl, rfl, rfl, rfl, hrest⟩ := h
      exact .inr (.inl ⟨middle, rfl, hrest⟩)

/-- A store key whose space is not the longer of two belongs to the same pair or is reread. -/
theorem reread_of_append {front : List Char} (hspace : space'.toList = space.toList ++ front)
    (h : ['_', 'i', 'd', '_'] ++ groupId.toList =
      front ++ (['_', 'i', 'd', '_'] ++ groupId'.toList)) :
    (space = space' ∧ groupId = groupId') ∨ Reread space groupId space' groupId' := by
  rcases mark_append_eq h with ⟨rfl, hid⟩ | ⟨middle, rfl, hid⟩ | ⟨rfl, hid⟩
  · rw [List.append_nil] at hspace
    exact .inl ⟨(String.toList_inj.mp hspace).symm, String.toList_inj.mp hid⟩
  · refine .inr (.behind (String.ofList middle) ?_ ?_)
    · apply String.toList_inj.mp
      simpa using hspace
    · apply String.toList_inj.mp
      simpa using hid
  · refine .inr (.within ?_ ?_)
    · apply String.toList_inj.mp
      simpa using hspace
    · apply String.toList_inj.mp
      simpa using hid

/-- Two pairs have one store key only if one of them rereads the key of the other. -/
theorem storeKey_eq_iff : storeKey space groupId = storeKey space' groupId' ↔
    (space = space' ∧ groupId = groupId') ∨ Reread space groupId space' groupId' ∨
      Reread space' groupId' space groupId := by
  constructor
  · intro h
    have htext : space.toList ++ (['_', 'i', 'd', '_'] ++ groupId.toList) =
        space'.toList ++ (['_', 'i', 'd', '_'] ++ groupId'.toList) := by
      simpa [storeKey] using congrArg String.toList h
    rcases List.append_eq_append_iff.mp htext with ⟨front, hspace, hrest⟩ | ⟨front, hspace, hrest⟩
    · exact (reread_of_append hspace hrest).imp_right .inl
    · rcases reread_of_append hspace hrest with ⟨rfl, rfl⟩ | hreread
      · exact .inl ⟨rfl, rfl⟩
      · exact .inr (.inr hreread)
  · rintro (⟨rfl, rfl⟩ | h | h)
    · rfl
    · exact h.storeKey_eq
    · exact h.storeKey_eq.symm

end Keys

/-- A save of a record by a client with a space in the store. -/
structure Save where
  space : String
  record : Record

namespace Save

variable {σ : Type} {n : Nat} {x : σ} {s : State} {space groupId : String}

def key (v : Save) : String :=
  storeKey v.space v.record.groupId

/-- A load after saves. -/
def performThenLoad (saves : List Save) (space groupId : String) : Attempt σ (Option Record) := do
  let _ ← saves.mapM fun v => v.record.store v.space
  Record.fetch? space groupId

/-- The text that is under a key after saves, from the one that was there before. -/
def textUnder (key : String) (saves : List Save) (before : Option String) : Option String :=
  saves.foldl (fun text v => if v.key = key then some v.record.save else text) before

theorem textUnder_insert {v : Save} {key : String} (hne : v.key ≠ key) (front back : List Save)
    (before : Option String) :
    textUnder key (front ++ v :: back) before = textUnder key (front ++ back) before := by
  rw [textUnder, textUnder, List.foldl_append, List.foldl_append, List.foldl_cons, if_neg hne]

theorem saves_ensures (saves : List Save) (hs : s.clock.deadline = none) :
    Ensures world n (saves.mapM fun v => v.record.store v.space)
      (fun _ x' s' => x' = x ∧ s'.clock.deadline = none ∧
        ∀ key, s'.store.get? key = textUnder key saves (s.store.get? key))
      (fun _ _ _ => False) x s := by
  induction saves generalizing s with
  | nil =>
      rw [ensures_mapM_nil]
      exact ⟨rfl, hs, fun _ => rfl⟩
  | cons v rest ih =>
      rw [ensures_mapM_cons]
      refine Access.store_ensures hs v.record fun s' huntimed hstore => ?_
      refine (ih huntimed).mono ?_ fun _ _ _ h => h
      rintro _ x' s'' ⟨rfl, huntimed', hget⟩
      refine ⟨rfl, huntimed', fun key => ?_⟩
      have hput : s'.store.get? key =
          if v.key = key then some v.record.save else s.store.get? key := by
        rw [hstore]
        split
        · rename_i hkey
          rw [← hkey]
          exact Assoc.lookup_put_self _ _ _
        · rename_i hkey
          exact Assoc.lookup_put_of_ne (Ne.symm hkey) _ _
      rw [hget, hput]
      rfl

theorem ending_performThenLoad (saves : List Save) (hs : s.clock.deadline = none) :
    ((performThenLoad saves space groupId).run.run world n x s).ending = .finished (Access.reading
      (textUnder (storeKey space groupId) saves (s.store.get? (storeKey space groupId)))) := by
  refine (meets_ending (R := fun ending _ _ => ending = _)).mp ?_
  refine ensures_bind.mpr ((saves_ensures saves hs).mono ?_ fun _ _ _ h => h.elim)
  rintro _ x' s' ⟨rfl, huntimed, hget⟩
  refine Access.fetch?_ensures huntimed groupId fun s'' _ _ => ?_
  rw [hget]
  cases Access.reading (textUnder (storeKey space groupId) saves _) with
  | ok found => rfl
  | error e => rfl

/-- Whether the saves of one client for a group leave alone what another client loads for a group,
whoever else saves whatever before and after them, in whatever store. -/
def Isolated (space groupId space' groupId' : String) : Prop :=
  ∀ {σ : Type} (n : Nat) (x : σ) (s : State), s.clock.deadline = none →
    ∀ (front back : List Save) (r : Record), r.groupId = groupId →
      ∃ result,
        ((performThenLoad (front ++ ⟨space, r⟩ :: back) space' groupId').run.run world n x s).ending =
          .finished result ∧
        ((performThenLoad (front ++ back) space' groupId').run.run world n x s).ending =
          .finished result

variable {space' groupId' : String}

theorem isolated_of_ne (h : storeKey space groupId ≠ storeKey space' groupId') :
    Isolated space groupId space' groupId' := by
  intro σ n x s hs front back r hid
  subst hid
  have hne : (Save.mk space r).key ≠ storeKey space' groupId' := h
  refine ⟨_, ending_performThenLoad _ hs, ?_⟩
  rw [textUnder_insert hne, ending_performThenLoad _ hs]

theorem ending_load_of_eq (h : storeKey space groupId = storeKey space' groupId') {r : Record}
    (hid : r.groupId = groupId) (hsound : r.history.Sound) (hs : s.clock.deadline = none) :
    ((performThenLoad [⟨space, r⟩] space' groupId').run.run world n x s).ending =
      .finished (.ok (some r.reindexed)) := by
  subst hid
  have htext : textUnder (storeKey space' groupId') [⟨space, r⟩]
      (s.store.get? (storeKey space' groupId')) = some r.save := if_pos h
  rw [ending_performThenLoad _ hs, htext, Access.reading, Record.restore_save hsound]
  rfl

theorem not_isolated_of_eq (h : storeKey space groupId = storeKey space' groupId') :
    ¬ Isolated space groupId space' groupId' := by
  intro hisolated
  obtain ⟨result, hwith, hwithout⟩ := hisolated 0 () {} rfl [] [] (.make groupId 0 .empty) rfl
  have hfound := ending_load_of_eq (n := 0) (x := ()) (s := {}) h (r := .make groupId 0 .empty) rfl
    History.Sound.empty rfl
  have hnone : ((performThenLoad [] space' groupId').run.run world 0 () {}).ending =
      .finished (.ok none) :=
    ending_performThenLoad [] rfl
  rw [List.nil_append, hfound] at hwith
  rw [List.nil_append, hnone] at hwithout
  exact nomatch Ending.finished.inj (hwith.trans hwithout.symm)

/-- Of two different pairs of a space and a group id, a save for the one never changes what a load
for the other gives, except for pairs that read one store key in two ways. -/
theorem isolated_iff (hne : (space, groupId) ≠ (space', groupId')) :
    Isolated space groupId space' groupId' ↔
      ¬ Reread space groupId space' groupId' ∧ ¬ Reread space' groupId' space groupId := by
  have hkeys : storeKey space groupId = storeKey space' groupId' ↔
      Reread space groupId space' groupId' ∨ Reread space' groupId' space groupId := by
    rw [storeKey_eq_iff, or_iff_right]
    rintro ⟨rfl, rfl⟩
    exact hne rfl
  rw [← not_or, ← hkeys]
  exact ⟨fun hisolated heq => not_isolated_of_eq heq hisolated, isolated_of_ne⟩

theorem isolated_iff_neighbours :
    ("a", "d_b") ≠ ("a_i", "b") ∧ Isolated "a" "d_b" "a_i" "b" := by
  have hkey : storeKey "a" "d_b" ≠ storeKey "a_i" "b" := by decide
  refine ⟨by decide, (isolated_iff (by decide)).mpr ⟨?_, ?_⟩⟩
  · exact fun h => hkey h.storeKey_eq
  · exact fun h => hkey h.storeKey_eq.symm

/-- One store key for two pairs: the save of one client gives another client's group a record, that
of the first client's group. -/
theorem saves_meet : ("a", "b_id_c") ≠ ("a_id_b", "c") ∧
    ¬ Isolated "a" "b_id_c" "a_id_b" "c" ∧
    ((performThenLoad [] "a_id_b" "c").run.run world 0 () {}).ending = .finished (.ok none) ∧
    ∃ r : Record, r.groupId = "b_id_c" ∧
      ((performThenLoad [⟨"a", r⟩] "a_id_b" "c").run.run world 0 () {}).ending =
        .finished (.ok (some r)) := by
  have hkey : storeKey "a" "b_id_c" = storeKey "a_id_b" "c" := by decide
  refine ⟨by decide, not_isolated_of_eq hkey, ending_performThenLoad [] rfl,
    (Record.make "b_id_c" 0 .empty).reindexed, rfl, ?_⟩
  exact ending_load_of_eq hkey rfl History.Sound.empty rfl

end Save

end Keyring.Group
