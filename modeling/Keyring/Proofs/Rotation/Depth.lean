import Mathlib.Data.ENat.Lattice
import Mathlib.Order.CompletePartialOrder
import Keyring.Proofs.Rotation.Board

namespace Keyring.Rotation

theorem Output.length_lt_derivedId (o : Output) : o.preKeyId.length < o.derivedId.length := by
  simp only [Output.derivedId, Memory.Engine.rotatedKeyId, String.length_append]
  have hmark : "-rot-".length = 5 := rfl
  omega

/-- The depth of an output among others: one if the member holds its start key; two if only the log
has it; else one more than the least depth of the outputs that give it. -/
noncomputable def depth (held log : List Key) (outputs : List Output) (o : Output) : ℕ∞ :=
  if o.preKeyId ∈ Key.ids held then 1
  else if o.preKeyId ∈ Key.ids log then 2
  else 1 + ⨅ (p : Output) (_ : p ∈ outputs ∧ p.derivedId = o.preKeyId), depth held log outputs p
termination_by o.preKeyId.length
decreasing_by
  rename_i hp
  exact hp.2 ▸ p.length_lt_derivedId

variable {held log : List Key} {outputs : List Output} {o : Output}

theorem depth_of_held (h : o.preKeyId ∈ Key.ids held) : depth held log outputs o = 1 := by
  rw [depth, if_pos h]

theorem depth_of_log (hheld : o.preKeyId ∉ Key.ids held) (hlog : o.preKeyId ∈ Key.ids log) :
    depth held log outputs o = 2 := by
  rw [depth, if_neg hheld, if_pos hlog]

theorem one_le_depth (o : Output) : 1 ≤ depth held log outputs o := by
  rw [depth]
  split
  · exact le_refl 1
  · split
    · exact one_le_two
    · exact le_self_add

theorem iInf_le_natCast_iff {ι : Type*} {p : ι → Prop} {f : ι → ℕ∞} {n : ℕ} :
    ⨅ (i : ι) (_ : p i), f i ≤ n ↔ ∃ i, p i ∧ f i ≤ n := by
  constructor
  · intro h
    by_contra hnone
    push Not at hnone
    have hle : ((n + 1 : ℕ) : ℕ∞) ≤ ⨅ (i : ι) (_ : p i), f i :=
      le_iInf₂ fun i hi => by
        simpa using Order.add_one_le_of_lt (hnone i hi)
    have hlt : n + 1 ≤ n := by exact_mod_cast hle.trans h
    omega
  · rintro ⟨i, hi, hle⟩
    exact (iInf₂_le i hi).trans hle

/-- An output is at most one deeper than some round in which its start key may come up. -/
theorem depth_le_succ_iff (n : ℕ) :
    depth held log outputs o ≤ ((n + 1 : ℕ) : ℕ∞) ↔
      o.preKeyId ∈ Key.ids held ∨ (1 ≤ n ∧ o.preKeyId ∈ Key.ids log) ∨
        ∃ p ∈ outputs, p.derivedId = o.preKeyId ∧ depth held log outputs p ≤ (n : ℕ∞) := by
  have hone : ∀ p, depth held log outputs p ≤ (n : ℕ∞) → 1 ≤ n := fun p hp => by
    exact_mod_cast (one_le_depth p).trans hp
  by_cases hheld : o.preKeyId ∈ Key.ids held
  · rw [depth_of_held hheld]
    exact ⟨fun _ => .inl hheld, fun _ => by exact_mod_cast Nat.succ_le_succ (Nat.zero_le n)⟩
  · by_cases hlog : o.preKeyId ∈ Key.ids log
    · rw [depth_of_log hheld hlog]
      constructor
      · intro hle
        have hle' : 2 ≤ n + 1 := by exact_mod_cast hle
        exact .inr (.inl ⟨by omega, hlog⟩)
      · rintro (h | ⟨hn, -⟩ | ⟨p, -, -, hp⟩)
        · exact absurd h hheld
        · exact_mod_cast Nat.succ_le_succ hn
        · exact_mod_cast Nat.succ_le_succ (hone p hp)
    · rw [depth, if_neg hheld, if_neg hlog, add_comm, Nat.cast_add, Nat.cast_one,
        ENat.add_le_add_iff_right ENat.one_ne_top, iInf_le_natCast_iff]
      simp only [hheld, hlog, and_false, false_or, and_assoc]

namespace Board

variable {actor : Actor} {b : Board}

/-- What a number of rounds does to a board: it knows the start keys of the outputs that are not
deeper than the next round, the log has the keys of those that are not deeper than the last one, and
exactly the deeper ones still wait, in their order. -/
structure Explored (actor : Actor) (b : Board) (n : ℕ) : Prop where
  knows_iff : ∀ o, knows (b.after actor n).held o = true ↔
    depth b.held b.log b.waiting o ≤ ((n + 1 : ℕ) : ℕ∞)
  mem_ids_iff : ∀ id, id ∈ Key.ids (b.after actor n).log ↔ id ∈ Key.ids b.log ∨
    ∃ p ∈ b.waiting, p.derivedId = id ∧ depth b.held b.log b.waiting p ≤ (n : ℕ∞)
  waiting_eq : (b.after actor n).waiting =
    b.waiting.filter fun o => decide ((n : ℕ∞) < depth b.held b.log b.waiting o)

theorem explored_zero (actor : Actor) (b : Board) : Explored actor b 0 := by
  have hpos : ∀ o, ¬ depth b.held b.log b.waiting o ≤ ((0 : ℕ) : ℕ∞) := fun o hle => by
    exact absurd ((one_le_depth o).trans hle) (by simp)
  constructor
  · intro o
    rw [after, Rotation.knows_iff, depth_le_succ_iff]
    constructor
    · exact .inl
    · rintro (hheld | ⟨hn, -⟩ | ⟨p, -, -, hle⟩)
      · exact hheld
      · exact absurd hn (by omega)
      · exact absurd hle (hpos p)
  · intro id
    rw [after]
    constructor
    · exact .inl
    · rintro (hlog | ⟨p, -, -, hle⟩)
      · exact hlog
      · exact absurd hle (hpos p)
  · rw [after, eq_comm, List.filter_eq_self]
    intro o _
    exact decide_eq_true (not_le.mp (hpos o))

namespace Explored

variable {n : ℕ} (h : Explored actor b n)

include h

theorem mem_waiting_iff (o : Output) : o ∈ (b.after actor n).waiting ↔
    o ∈ b.waiting ∧ (n : ℕ∞) < depth b.held b.log b.waiting o := by
  rw [h.waiting_eq, List.mem_filter, decide_eq_true_eq]

theorem mem_ids_succ_iff (id : String) :
    id ∈ Key.ids (b.after actor (n + 1)).log ↔ id ∈ Key.ids b.log ∨
      ∃ p ∈ b.waiting, p.derivedId = id ∧
        depth b.held b.log b.waiting p ≤ ((n + 1 : ℕ) : ℕ∞) := by
  rw [← round_after, Board.round, mem_ids_foldl_resolveInto, h.mem_ids_iff]
  constructor
  · rintro ((hlog | ⟨p, hp, hid, hle⟩) | ⟨p, hp, hk, hid⟩)
    · exact .inl hlog
    · exact .inr ⟨p, hp, hid, hle.trans (by exact_mod_cast Nat.le_succ n)⟩
    · exact .inr ⟨p, ((h.mem_waiting_iff p).mp hp).1, hid, (h.knows_iff p).mp hk⟩
  · rintro (hlog | ⟨p, hp, hid, hle⟩)
    · exact .inl (.inl hlog)
    · rcases le_or_gt (depth b.held b.log b.waiting p) (n : ℕ∞) with hle' | hlt
      · exact .inl (.inr ⟨p, hp, hid, hle'⟩)
      · exact .inr ⟨p, (h.mem_waiting_iff p).mpr ⟨hp, hlt⟩, (h.knows_iff p).mpr hle, hid⟩

theorem waiting_succ_eq : (b.after actor (n + 1)).waiting =
    b.waiting.filter fun o =>
      decide (((n + 1 : ℕ) : ℕ∞) < depth b.held b.log b.waiting o) := by
  rw [← round_after, Board.round]
  simp only [h.waiting_eq, List.filter_filter]
  apply List.filter_congr
  intro o _
  have hknows := h.knows_iff o
  rw [← not_lt] at hknows
  rw [Bool.eq_iff_iff]
  simp only [Bool.and_eq_true, Bool.not_eq_true', decide_eq_true_eq, Bool.eq_false_iff, ne_eq,
    hknows, not_not]
  constructor
  · exact And.left
  · exact fun hlt => ⟨hlt, lt_of_le_of_lt (by exact_mod_cast Nat.le_succ n) hlt⟩

theorem succ (hready : b.Ready) : Explored actor b (n + 1) := by
  refine ⟨fun o => ?_, h.mem_ids_succ_iff, h.waiting_succ_eq⟩
  -- The member holds the log now, and what was held before is in the log as well.
  rw [Rotation.knows_iff, held_after_succ, h.mem_ids_succ_iff, depth_le_succ_iff]
  constructor
  · rintro (hlog | hp)
    · exact .inr (.inl ⟨by omega, hlog⟩)
    · exact .inr (.inr hp)
  · rintro (hheld | ⟨-, hlog⟩ | hp)
    · exact .inl ((hready.held_within.map Key.id).subset hheld)
    · exact .inl hlog
    · exact .inr hp

end Explored

theorem explored (h : b.Ready) (n : ℕ) : Explored actor b n := by
  induction n with
  | zero => exact explored_zero actor b
  | succ n ih => exact ih.succ h

end Board

end Keyring.Rotation
