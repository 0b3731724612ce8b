import Mathlib.Algebra.Order.Floor.Div
import Keyring.Proofs.Page.Lossless

namespace Keyring.Page

variable {size : UInt64} {b : Boundary} {count : UInt64}

theorem toNat_limit_eq (b : Boundary) (count : UInt64) :
    (b.limit count).toNat = sharedCount b count.toNat := by
  rw [toNat_limit]
  cases b <;> rfl

theorem toNat_countFrom_zero (hs : size ≠ 0) :
    (countFrom count size b hs 0).toNat = max 1 ((b.limit count).toNat ⌈/⌉ size.toNat) := by
  have hsize : 0 < size.toNat := Nat.pos_of_ne_zero fun h => hs (UInt64.toNat_inj.mp h)
  obtain ⟨hpos, hall, hfull⟩ := countFrom_bounds count b hs 0 (by decide)
  generalize (countFrom count size b hs 0).toNat = n at hpos hall hfull
  have hle : (b.limit count).toNat ⌈/⌉ size.toNat ≤ n := by
    rw [ceilDiv_le_iff_le_mul hsize, Nat.mul_comm]
    exact hall
  refine Nat.le_antisymm ?_ (Nat.max_le.mpr ⟨hpos, hle⟩)
  -- A page before the last one does not reach the limit, so fewer pages would not do.
  rcases Nat.eq_or_lt_of_le (Nat.succ_le_of_lt hpos) with hone | hmany
  · exact hone ▸ Nat.le_max_left _ _
  · refine Nat.le_trans ?_ (Nat.le_max_right _ _)
    have hbefore := hfull (n - 2) (Nat.zero_le _) (by omega)
    have hfewer : ¬ (b.limit count).toNat ⌈/⌉ size.toNat ≤ n - 1 := by
      rw [ceilDiv_le_iff_le_mul hsize, Nat.mul_comm]
      have hstep : n - 1 = n - 2 + 1 := by omega
      rw [hstep, Nat.succ_mul]
      exact Nat.not_le.mpr hbefore
    omega

theorem more_iff_succ_lt (hs : size ≠ 0) {index : UInt64}
    (hindex : index < countFrom count size b hs 0) :
    (cut count index size b).more = true ↔
      index.toNat + 1 < (countFrom count size b hs 0).toNat := by
  obtain ⟨-, hall, hfull⟩ := countFrom_bounds count b hs 0 (by decide)
  rw [more_iff_lt_limit]
  constructor
  · intro hbelow
    refine Nat.lt_of_not_le fun hle => ?_
    have hlt := UInt64.lt_iff_toNat_lt.mp hindex
    have heq : (countFrom count size b hs 0).toNat = index.toNat + 1 := Nat.le_antisymm hle hlt
    rw [heq, Nat.succ_mul] at hall
    exact absurd hbelow (Nat.not_lt.mpr hall)
  · exact hfull index.toNat (Nat.zero_le _)

/-- A page is where numbers without bounds place it. -/
structure Placed (len index size : UInt64) (b : Boundary) (s : Span) : Prop where
  start_eq : s.start.toNat = min (index.toNat * size.toNat) (sharedCount b len.toNat)
  stop_eq : s.stop.toNat = min (index.toNat * size.toNat + size.toNat) (sharedCount b len.toNat)
  start_le : s.start ≤ s.stop
  stop_le : s.stop ≤ len
  more_iff : s.more = true ↔ (index.toNat + 1) * size.toNat < sharedCount b len.toNat

theorem placed_cut (len index size : UInt64) (b : Boundary) :
    Placed len index size b (cut len index size b) := by
  obtain ⟨hstart, hstop⟩ := toNat_cut index size b len
  have hlimit := UInt64.le_iff_toNat_le.mp (limit_le b len)
  refine ⟨?_, ?_, ?_, ?_, ?_⟩
  · rw [hstart, toNat_limit_eq]
  · rw [hstop, toNat_limit_eq]
  · rw [UInt64.le_iff_toNat_le, hstart, hstop]
    omega
  · rw [UInt64.le_iff_toNat_le, hstop]
    omega
  · rw [more_iff_lt_limit, toNat_limit_eq, Nat.succ_mul]

/-- What is computed in words that stop at the largest one agrees with what numbers without bounds
give: where every page lies, whether another one follows, and how many there are. The count goes
through the pages one by one and so never wraps. -/
theorem spans_exact (len size : UInt64) (hs : size ≠ 0) (b : Boundary) :
    (∀ index, ∃ s, spanAt len index size b = .ok s ∧ Placed len index size b s) ∧
    ∃ n, Page.count len size b = .ok n ∧
      n.toNat = max 1 (sharedCount b len.toNat ⌈/⌉ size.toNat) ∧
      ∀ index < n, ∃ s, spanAt len index size b = .ok s ∧
        (s.more = true ↔ index.toNat + 1 < n.toNat) := by
  have hspan : ∀ index, spanAt len index size b = .ok (cut len index size b) :=
    fun index => if_neg hs
  refine ⟨fun index => ⟨_, hspan index, placed_cut len index size b⟩, _, dif_neg hs, ?_, ?_⟩
  · rw [toNat_countFrom_zero, toNat_limit_eq]
  · exact fun index hindex => ⟨_, hspan index, more_iff_succ_lt hs hindex⟩

theorem spans_exact_largest : (3 : UInt64) ≠ 0 ∧
    (∃ s, spanAt Saturating.top Saturating.top 3 .compat = .ok s ∧
      s.start.toNat = 18446744073709551614 ∧ s.stop.toNat = 18446744073709551614 ∧
      s.more = false) ∧
    ∃ n, Page.count Saturating.top 3 .compat = .ok n ∧ n.toNat = 6148914691236517205 := by
  obtain ⟨hspan, n, hcount, hn, -⟩ := spans_exact Saturating.top 3 (by decide) .compat
  obtain ⟨s, hs, hplaced⟩ := hspan Saturating.top
  refine ⟨by decide, ⟨s, hs, ?_, ?_, ?_⟩, n, hcount, hn.trans (by decide)⟩
  · exact hplaced.start_eq.trans (by decide)
  · exact hplaced.stop_eq.trans (by decide)
  · exact Bool.eq_false_iff.mpr (mt hplaced.more_iff.mp (by decide))

end Keyring.Page
