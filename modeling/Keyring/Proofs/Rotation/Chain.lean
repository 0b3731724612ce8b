import Keyring.Command.Simulation
import Keyring.Proofs.Group.InTime
import Keyring.Proofs.Rotation.Depth

namespace Keyring.Simulation

open Memory Rotation

/-- The output of a chain with this start key and this index. -/
def link (preKeyId : String) (index : Nat) : Output :=
  ⟨preKeyId, "sim-" ++ Decimal.render index⟩

/-- The id of the key that the output of a chain gives, which is the start key of the next one. -/
def nextId (preKeyId : String) (index : Nat) : String :=
  (link preKeyId index).derivedId

variable {id : String} {index n missing : Nat} {keys : List Key} {o : Output}

theorem chain_succ (id : String) (index n : Nat) :
    chain id index (n + 1) = link id index :: chain (nextId id index) (index + 1) n :=
  rfl

theorem length_lt_nextId (id : String) (index : Nat) : id.length < (nextId id index).length :=
  (link id index).length_lt_derivedId

theorem length_chain (id : String) (index n : Nat) : (chain id index n).length = n := by
  induction n generalizing id index with
  | zero => rfl
  | succ n ih => rw [chain_succ, List.length_cons, ih]

theorem drop_min_chain (id : String) (index n k : Nat) :
    (chain id index n).drop (min k n) = (chain id index n).drop k := by
  by_cases hle : k ≤ n
  · rw [Nat.min_eq_left hle]
  · have hend : ∀ j, n ≤ j → (chain id index n).drop j = [] :=
      fun j hj => List.drop_of_length_le (by rwa [length_chain])
    rw [hend _ (by omega), hend _ (by omega)]

theorem length_le_of_mem_chain (h : o ∈ chain id index n) : id.length ≤ o.preKeyId.length := by
  induction n generalizing id index with
  | zero => exact absurd h List.not_mem_nil
  | succ n ih =>
      rw [chain_succ] at h
      rcases List.mem_cons.mp h with rfl | h
      · exact le_refl _
      · exact (length_lt_nextId id index).le.trans (ih h)

theorem lost_eq_nil_iff : lost n = [] ↔ n = 0 := by
  simp [lost]

@[simp] theorem length_lost (n : Nat) : (lost n).length = n := by
  simp [lost]

/-- Whether the ids of keys are not longer than a given id, and begin as those of sample keys. -/
structure Within (id : String) (keys : List Key) : Prop where
  short : ∀ i ∈ Key.ids keys, i.length ≤ id.length
  begins : ∀ i ∈ Key.ids keys, i.toList.head? = some 'k'

namespace Within

variable (h : Within id keys)

include h

theorem nextId_notMem (index : Nat) : nextId id index ∉ Key.ids keys := fun hmem => by
  have hle := h.short _ hmem
  have hlt := length_lt_nextId id index
  omega

theorem knows_of_mem_chain (hid : id ∉ Key.ids keys) (ho : o ∈ chain id index n) :
    knows keys o = false := by
  rw [Bool.eq_false_iff, ne_eq, knows_iff]
  intro hmem
  cases n with
  | zero => exact absurd ho List.not_mem_nil
  | succ n =>
      rw [chain_succ] at ho
      rcases List.mem_cons.mp ho with rfl | ho
      · exact hid hmem
      · -- What the later outputs start from is longer than every known id.
        have hle := h.short _ hmem
        have hlt := length_lt_nextId id index
        have hchain := length_le_of_mem_chain ho
        omega

theorem knows_of_mem_lost (ho : o ∈ lost missing) : knows keys o = false := by
  rw [Bool.eq_false_iff, ne_eq, knows_iff]
  intro hmem
  obtain ⟨i, -, rfl⟩ := List.mem_map.mp ho
  have hbegins := h.begins _ hmem
  simp [String.toList_append] at hbegins

theorem next (index : Nat) : Within (nextId id index) keys :=
  ⟨fun i hi => (h.short i hi).trans (length_lt_nextId id index).le, h.begins⟩

theorem snoc_next (hid : id ∈ Key.ids keys) {key : Key} (hkey : key.id = nextId id index) :
    Within (nextId id index) (keys ++ [key]) := by
  have hids : Key.ids (keys ++ [key]) = Key.ids keys ++ [nextId id index] := by
    rw [Key.ids, List.map_append, List.map_singleton, hkey]
  constructor
  · intro i hi
    rcases List.mem_append.mp (hids ▸ hi) with hi | hi
    · exact (h.next index).short i hi
    · rw [List.mem_singleton.mp hi]
  · intro i hi
    rcases List.mem_append.mp (hids ▸ hi) with hi | hi
    · exact h.begins i hi
    · have hbegins := h.begins id hid
      rw [List.mem_singleton.mp hi, nextId, Output.derivedId, Engine.rotatedKeyId]
      simp [link, String.toList_append, hbegins]

end Within

/-- A board of a member with the whole log, at which a chain waits that starts from a key of the
log, besides outputs that are lost. -/
structure Linked (b : Board) (id : String) (index n missing : Nat) : Prop where
  held_eq : b.held = b.log
  waiting_eq : b.waiting = (chain id index n).reverse ++ lost missing
  within : Within id b.log
  mem : id ∈ Key.ids b.log

namespace Linked

variable {b : Board}

theorem round (h : Linked b id index (n + 1) missing) (actor : Actor) :
    Linked (b.round actor) (nextId id index) (index + 1) n missing ∧
      (b.round actor).log.length = b.log.length + 1 := by
  have hnew : nextId id index ∉ Key.ids b.log := h.within.nextId_notMem index
  have hwaiting : b.waiting =
      (chain (nextId id index) (index + 1) n).reverse ++ link id index :: lost missing := by
    rw [h.waiting_eq, chain_succ, List.reverse_cons, List.append_assoc]
    rfl
  have hfirst : knows b.log (link id index) = true := knows_iff.mpr h.mem
  have hlater : ∀ o ∈ (chain (nextId id index) (index + 1) n).reverse, knows b.log o = false :=
    fun o ho => (h.within.next index).knows_of_mem_chain hnew (List.mem_reverse.mp ho)
  have hlost : ∀ o ∈ lost missing, knows b.log o = false := fun o => h.within.knows_of_mem_lost
  have hresolved : b.waiting.filter (knows b.log) = [link id index] := by
    rw [hwaiting, List.filter_append, List.filter_cons_of_pos hfirst,
      List.filter_eq_nil_iff.mpr fun o ho => by simp [hlater o ho],
      List.filter_eq_nil_iff.mpr fun o ho => by simp [hlost o ho]]
    rfl
  have hdeferred : b.waiting.filter (!knows b.log ·) =
      (chain (nextId id index) (index + 1) n).reverse ++ lost missing := by
    rw [hwaiting, List.filter_append, List.filter_cons_of_neg (by simp [hfirst]),
      List.filter_eq_self.mpr fun o ho => by simp [hlater o ho],
      List.filter_eq_self.mpr fun o ho => by simp [hlost o ho]]
  -- The log gets the key of the first output, under the id from which the chain goes on.
  obtain ⟨k, -, hid, henter⟩ := exists_resolveInto_eq actor b.log hfirst
  have hentering : (Engine.rotatedKey k (link id index) actor).id ∉ Key.ids b.log := by rwa [hid]
  obtain ⟨time, hentered, -⟩ := Server.enter_of_not_mem hentering
  have hlog : (b.round actor).log =
      b.log ++ [{ Engine.rotatedKey k (link id index) actor with time }] := by
    show b.waiting.foldl (resolveInto actor b.held) b.log = _
    rw [h.held_eq, ← hentered, ← henter, ← foldl_resolveInto_filter (knows b.log), hresolved]
    · rfl
    · exact fun o _ hk log' _ => resolveInto_of_unknown hk
  refine ⟨⟨rfl, ?_, ?_, ?_⟩, ?_⟩
  · rw [← hdeferred, ← h.held_eq]
    rfl
  · rw [hlog]
    exact h.within.snoc_next h.mem hid
  · rw [hlog, Key.ids, List.map_append]
    exact List.mem_append_right _ (List.mem_singleton.mpr hid.symm)
  · rw [hlog, List.length_append]
    rfl

theorem round_zero (h : Linked b id index 0 missing) (actor : Actor) : b.round actor = b := by
  have hwaiting : b.waiting = lost missing := h.waiting_eq
  have hround : b.round actor = ⟨b.log, b.log, b.waiting⟩ := by
    apply Board.round_of_unknown
    intro o ho
    rw [h.held_eq]
    exact h.within.knows_of_mem_lost (hwaiting ▸ ho)
  rw [hround]
  exact congrArg (Board.mk · b.log b.waiting) h.held_eq.symm

/-- Every round works off one output, as long as there is one. -/
theorem after (h : Linked b id index n missing) (actor : Actor) (rounds : Nat) :
    (b.after actor rounds).waiting = ((chain id index n).drop rounds).reverse ++ lost missing ∧
      (b.after actor rounds).log.length = b.log.length + min rounds n := by
  induction rounds generalizing b id index n with
  | zero =>
      rw [Board.after, Nat.zero_min]
      exact ⟨h.waiting_eq, rfl⟩
  | succ rounds ih =>
      cases n with
      | zero =>
          rw [Board.after, h.round_zero actor]
          obtain ⟨hwaiting, hlength⟩ := ih h
          refine ⟨?_, ?_⟩
          · rw [hwaiting, chain, List.drop_nil, List.drop_nil]
          · rw [hlength, Nat.min_zero, Nat.min_zero]
      | succ n =>
          obtain ⟨hlinked, hgrown⟩ := h.round actor
          obtain ⟨hwaiting, hlength⟩ := ih hlinked
          refine ⟨hwaiting, ?_⟩
          rw [Board.after, hlength, hgrown]
          omega

theorem fetchCount_eq (h : Linked b id index n missing) (actor : Actor) {threshold : UInt64}
    (hthreshold : 1 ≤ threshold.toNat) (rounds : Nat) :
    Group.fetchCount threshold actor rounds b = rounds := by
  have hone : ∀ found, found ≤ 1 → Group.fetchesFor threshold found = 1 := fun found hfound => by
    rw [Group.fetchesFor, if_neg (by omega)]
  induction rounds generalizing b id index n with
  | zero => rfl
  | succ rounds ih =>
      rw [Group.fetchCount, h.held_eq]
      cases n with
      | zero =>
          rw [h.round_zero actor, ih h, Nat.sub_self, hone 0 (by omega), Nat.add_comm]
      | succ n =>
          obtain ⟨hlinked, hgrown⟩ := h.round actor
          rw [ih hlinked, hgrown, Nat.add_sub_cancel_left, hone 1 (le_refl 1), Nat.add_comm]

end Linked

end Keyring.Simulation
