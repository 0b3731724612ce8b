import Keyring.Proofs.Key.RoundTrip

namespace Keyring.Page

/-- The keys that a new member is to get: all of them, or all but the newest. -/
def shared : Boundary → List Key → List Key
  | .inclusive, keys => keys
  | .compat, keys => keys.dropLast

def covered (keys : List Key) (s : Span) : List Key :=
  (keys.drop s.start.toNat).take s.size.toNat

/-- Whether a page is the page of a list of keys that has its index. -/
def IsCut (keys : List Key) (size : UInt64) (b : Boundary) (page : Page) : Prop :=
  page = ofSpan keys page.index (cut keys.length.toUInt64 page.index size b)

variable {keys : List Key} (index size : UInt64) (b : Boundary)

theorem toNat_length (hlen : keys.length < UInt64.size) :
    keys.length.toUInt64.toNat = keys.length :=
  UInt64.toNat_ofNat_of_lt hlen

theorem toNat_limit (count : UInt64) :
    (b.limit count).toNat = match b with
      | .inclusive => count.toNat
      | .compat => count.toNat - 1 := by
  cases b with
  | inclusive => rfl
  | compat =>
      by_cases h : count = 0
      · rw [Boundary.limit, if_pos h, h]
        rfl
      · have hne : count.toNat ≠ 0 := fun e => h (UInt64.toNat_inj.1 e)
        have hone : (1 : UInt64).toNat = 1 := rfl
        have hle : (1 : UInt64) ≤ count := by
          rw [UInt64.le_iff_toNat_le]
          omega
        simp only [Boundary.limit, h, if_false]
        rw [UInt64.toNat_sub_of_le _ _ hle, hone]

theorem take_limit (hlen : keys.length < UInt64.size) :
    keys.take (b.limit keys.length.toUInt64).toNat = shared b keys := by
  rw [toNat_limit, toNat_length hlen]
  cases b with
  | inclusive => exact List.take_length
  | compat => rw [shared, List.dropLast_eq_take]

theorem length_shared (hlen : keys.length < UInt64.size) :
    (shared b keys).length = (b.limit keys.length.toUInt64).toNat := by
  rw [toNat_limit, toNat_length hlen]
  cases b with
  | inclusive => rfl
  | compat => exact List.length_dropLast

theorem toNat_cut (count : UInt64) :
    (cut count index size b).start.toNat = min (index.toNat * size.toNat) (b.limit count).toNat ∧
      (cut count index size b).stop.toNat =
        min (index.toNat * size.toNat + size.toNat) (b.limit count).toNat := by
  have := (b.limit count).toNat_lt
  simp only [cut, Saturating.toNat_min, Saturating.toNat_add, Saturating.toNat_mul,
    Saturating.toNat_top]
  omega

/-- Another page follows if the true end of a page, not only the one at which words stop, is below
the limit. -/
theorem more_iff_lt_limit (count : UInt64) :
    (cut count index size b).more = true ↔
      index.toNat * size.toNat + size.toNat < (b.limit count).toNat := by
  have hstop := (toNat_cut index size b count).2
  show decide ((cut count index size b).stop < b.limit _) = true ↔ _
  rw [decide_eq_true_iff, UInt64.lt_iff_toNat_lt, hstop]
  omega

theorem more_iff (hlen : keys.length < UInt64.size) :
    (cut keys.length.toUInt64 index size b).more = true ↔
      index.toNat * size.toNat + size.toNat < (shared b keys).length := by
  rw [more_iff_lt_limit, length_shared b hlen]

theorem toNat_size (count : UInt64) :
    (cut count index size b).size.toNat =
      (cut count index size b).stop.toNat - (cut count index size b).start.toNat := by
  have hle : (cut count index size b).start ≤ (cut count index size b).stop := by
    rw [UInt64.le_iff_toNat_le, (toNat_cut index size b count).1, (toNat_cut index size b count).2]
    omega
  exact UInt64.toNat_sub_of_le _ _ hle

theorem take_drop_min {α : Type} (l : List α) (start size limit : Nat) :
    (l.drop (min start limit)).take (min (start + size) limit - min start limit) =
      ((l.take limit).drop start).take size := by
  by_cases h : start ≤ limit
  · rw [List.drop_take, List.take_take, Nat.min_eq_left h]
    congr 1
    omega
  · have hdrop : (l.take limit).drop start = [] :=
      List.drop_eq_nil_of_le (by rw [List.length_take]; omega)
    have hsize : min (start + size) limit - min start limit = 0 := by omega
    rw [hdrop, hsize, List.take_zero, List.take_nil]

theorem covered_cut (hlen : keys.length < UInt64.size) :
    covered keys (cut keys.length.toUInt64 index size b) =
      ((shared b keys).drop (index.toNat * size.toNat)).take size.toNat := by
  obtain ⟨hstart, hstop⟩ := toNat_cut index size b keys.length.toUInt64
  rw [covered, toNat_size, hstart, hstop, ← take_limit b hlen]
  exact take_drop_min keys _ _ _

theorem length_covered (hlen : keys.length < UInt64.size) :
    (covered keys (cut keys.length.toUInt64 index size b)).length =
      (cut keys.length.toUInt64 index size b).size.toNat := by
  have hstop := (toNat_cut index size b keys.length.toUInt64).2
  have hlimit := length_shared b hlen
  have hle : (shared b keys).length ≤ keys.length := by
    rw [← take_limit b hlen, List.length_take]
    omega
  rw [covered, List.length_take, List.length_drop, toNat_size]
  omega

theorem toNat_succ {index size : UInt64} {b : Boundary} {count : UInt64} (hs : size ≠ 0)
    (h : (cut count index size b).more = true) :
    (index + 1).toNat = index.toNat + 1 := by
  have hlt := index_lt_of_more hs h
  have hcount := count.toNat_lt
  have hone : (1 : UInt64).toNat = 1 := rfl
  rw [UInt64.toNat_add, hone]
  exact Nat.mod_eq_of_lt (by omega)

theorem toNat_succ_lt {index size : UInt64} {b : Boundary} {count : UInt64} (hs : size ≠ 0)
    (hmore : (cut count index size b).more = true) : (index + 1).toNat + 1 < UInt64.size := by
  have hsize : 0 < size.toNat := Nat.pos_of_ne_zero fun h => hs (UInt64.toNat_inj.mp h)
  have hbelow := (more_iff_lt_limit index size b count).mp hmore
  have hlimit := (b.limit count).toNat_lt_size
  have hle : index.toNat ≤ index.toNat * size.toNat := Nat.le_mul_of_pos_right _ hsize
  rw [toNat_succ hs hmore]
  omega

/-- The pages that are counted from an index on end behind the limit, and each of them but the last
ends before it. -/
theorem countFrom_bounds {size : UInt64} (count : UInt64) (b : Boundary) (hs : size ≠ 0)
    (index : UInt64) (hindex : index.toNat + 1 < UInt64.size) :
    let n := (countFrom count size b hs index).toNat
    index.toNat < n ∧ (b.limit count).toNat ≤ n * size.toNat ∧
      ∀ i, index.toNat ≤ i → i + 1 < n → i * size.toNat + size.toNat < (b.limit count).toNat := by
  induction index using countFrom.induct count size b hs with
  | case1 index hmore ih =>
      have hnext := toNat_succ hs hmore
      have hbelow := (more_iff_lt_limit index size b count).mp hmore
      obtain ⟨hlt, hall, hfull⟩ := ih (toNat_succ_lt hs hmore)
      rw [countFrom, dif_pos hmore]
      refine ⟨by omega, hall, fun i hi hin => ?_⟩
      rcases Nat.eq_or_lt_of_le hi with rfl | hi
      · exact hbelow
      · exact hfull i (by omega) hin
  | case2 index hmore =>
      have hlast := (not_congr (more_iff_lt_limit index size b count)).mp hmore
      have hnext : (index + 1).toNat = index.toNat + 1 := by
        rw [UInt64.toNat_add]
        exact Nat.mod_eq_of_lt hindex
      rw [countFrom, dif_neg hmore, hnext]
      refine ⟨Nat.lt_succ_self _, ?_, fun i hi hin => absurd hin (by omega)⟩
      rw [Nat.succ_mul]
      omega

theorem indices_following (hs : size ≠ 0) :
    (following keys size b hs index).map (fun page => page.index.toNat) =
      List.range' index.toNat (following keys size b hs index).length := by
  induction index using following.induct keys size b hs with
  | case1 index s h ih =>
      rw [following, dif_pos h, List.map_cons, ih, List.length_cons, List.range'_succ,
        toNat_succ hs h]
      rfl
  | case2 index s h =>
      rw [following, dif_neg h]
      rfl

theorem flatMap_following (hlen : keys.length < UInt64.size) (hs : size ≠ 0) :
    (following keys size b hs index).flatMap (fun page => covered keys page.span) =
      (shared b keys).drop (index.toNat * size.toNat) := by
  induction index using following.induct keys size b hs with
  | case1 index s h ih =>
      have hnext : (index + 1).toNat * size.toNat = index.toNat * size.toNat + size.toNat := by
        rw [toNat_succ hs h, Nat.succ_mul]
      rw [following, dif_pos h, List.flatMap_cons, ih, hnext, ← List.drop_drop]
      show covered keys s ++ _ = _
      rw [covered_cut index size b hlen, List.take_append_drop]
  | case2 index s h =>
      have hlast := (not_congr (more_iff index size b hlen)).mp h
      rw [following, dif_neg h]
      show covered keys s ++ [] = _
      rw [List.append_nil, covered_cut index size b hlen]
      exact List.take_of_length_le (by rw [List.length_drop]; omega)

theorem isCut_of_mem_following (hs : size ≠ 0) {page : Page} {index : UInt64}
    (h : page ∈ following keys size b hs index) : IsCut keys size b page := by
  induction index using following.induct keys size b hs with
  | case1 index s hmore ih =>
      rw [following, dif_pos hmore] at h
      rcases List.mem_cons.mp h with rfl | hrest
      · rfl
      · exact ih hrest
  | case2 index s hmore =>
      rw [following, dif_neg hmore] at h
      rw [List.mem_singleton.mp h]
      rfl

end Keyring.Page
