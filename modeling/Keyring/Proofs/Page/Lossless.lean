import Keyring.Proofs.History.Sound
import Keyring.Proofs.Page.Cover

namespace Keyring.Page

/-- How many of a number of keys a new member is to get. -/
def sharedCount : Boundary → Nat → Nat
  | .inclusive, len => len
  | .compat, len => len - 1

variable {keys : List Key} {size : UInt64} {b : Boundary}

theorem take_sharedCount (b : Boundary) (keys : List Key) :
    keys.take (sharedCount b keys.length) = shared b keys := by
  cases b with
  | inclusive => exact List.take_length
  | compat => rw [shared, List.dropLast_eq_take, sharedCount]

theorem length_shared_eq (b : Boundary) (keys : List Key) :
    (shared b keys).length = sharedCount b keys.length := by
  cases b with
  | inclusive => rfl
  | compat => exact List.length_dropLast

theorem countFrom_spec (hlen : keys.length < UInt64.size) (hs : size ≠ 0) (index : UInt64)
    (hindex : index.toNat + 1 < UInt64.size) :
    let n := (countFrom keys.length.toUInt64 size b hs index).toNat
    index.toNat < n ∧ (shared b keys).length ≤ n * size.toNat ∧
      ∀ i, index.toNat ≤ i → i + 1 < n → i * size.toNat + size.toNat < (shared b keys).length := by
  rw [length_shared b hlen]
  exact countFrom_bounds _ b hs index hindex

theorem flatMap_range_take (l : List Key) (size n : Nat) :
    ((List.range n).flatMap fun i => (l.drop (i * size)).take size) = l.take (n * size) := by
  induction n with
  | zero => simp
  | succ n ih =>
      rw [List.range_succ, List.flatMap_append, ih, List.flatMap_singleton, Nat.succ_mul,
        List.take_add]

theorem flatMap_covered (hlen : keys.length < UInt64.size) (n : UInt64)
    (hall : (shared b keys).length ≤ n.toNat * size.toNat) :
    ((List.range n.toNat).flatMap fun i =>
      covered keys (cut keys.length.toUInt64 i.toUInt64 size b)) = shared b keys := by
  have hindex : ∀ i ∈ List.range n.toNat,
      covered keys (cut keys.length.toUInt64 i.toUInt64 size b) =
        ((shared b keys).drop (i * size.toNat)).take size.toNat := by
    intro i hi
    have hlt : i < UInt64.size := (List.mem_range.mp hi).trans n.toNat_lt
    have htoNat : i.toUInt64.toNat = i := UInt64.toNat_ofNat_of_lt hlt
    rw [covered_cut i.toUInt64 size b hlen, htoNat]
  rw [List.flatMap_congr hindex, flatMap_range_take]
  exact List.take_of_length_le hall

theorem more_eq_false_iff (hlen : keys.length < UInt64.size) (index : UInt64) :
    (cut keys.length.toUInt64 index size b).more = false ↔
      (shared b keys).length ≤ index.toNat * size.toNat + size.toNat := by
  rw [Bool.eq_false_iff, Ne, more_iff index size b hlen, Nat.not_lt]

theorem length_following (hs : size ≠ 0) (index : UInt64)
    (hindex : index.toNat + 1 < UInt64.size) :
    index.toNat + (following keys size b hs index).length =
      (countFrom keys.length.toUInt64 size b hs index).toNat := by
  induction index using countFrom.induct keys.length.toUInt64 size b hs with
  | case1 index hmore ih =>
      rw [following, dif_pos hmore, countFrom, dif_pos hmore, ← ih (toNat_succ_lt hs hmore),
        toNat_succ hs hmore, List.length_cons]
      omega
  | case2 index hmore =>
      rw [following, dif_neg hmore, countFrom, dif_neg hmore, UInt64.toNat_add]
      exact (Nat.mod_eq_of_lt hindex).symm

/-- After the first page there are the others that are counted, or one without keys. -/
theorem length_following_one (hlen : keys.length < UInt64.size) (hs : size ≠ 0) :
    (following keys size b hs 1).length =
      max 1 ((countFrom keys.length.toUInt64 size b hs 0).toNat - 1) := by
  have hzero : (0 : UInt64).toNat = 0 := rfl
  have hone : (1 : UInt64).toNat = 1 := rfl
  cases hmore : (cut keys.length.toUInt64 0 size b).more with
  | true =>
      have hlength : 1 + (following keys size b hs 1).length = _ :=
        length_following hs 1 (by decide)
      rw [countFrom, dif_pos hmore, UInt64.zero_add, ← hlength]
      have hpos : 0 < (following keys size b hs 1).length := by
        rw [following]
        split <;> simp
      omega
  | false =>
      have hlast := (more_eq_false_iff hlen 0).mp hmore
      rw [hzero, Nat.zero_mul] at hlast
      have hnext : (cut keys.length.toUInt64 1 size b).more = false := by
        rw [more_eq_false_iff hlen, hone]
        omega
      rw [following, dif_neg (Bool.eq_false_iff.mp hnext), countFrom,
        dif_neg (Bool.eq_false_iff.mp hmore)]
      rfl

theorem covered_eq_nil_iff (hlen : keys.length < UInt64.size) (hs : size ≠ 0) (index : UInt64) :
    covered keys (cut keys.length.toUInt64 index size b) = [] ↔
      (shared b keys).length ≤ index.toNat * size.toNat := by
  have hsize : 0 < size.toNat := Nat.pos_of_ne_zero fun h => hs (UInt64.toNat_inj.mp h)
  rw [← List.length_eq_zero_iff, covered_cut index size b hlen, List.length_take, List.length_drop]
  omega

/-- The pages of a list of keys at all indices, with what is read from each: the first `n` hold what
is shared, and no key is on any other. -/
structure ReadsBack (keys : List Key) (size : UInt64) (b : Boundary) (n : UInt64)
    (pages : UInt64 → Page) (contents : UInt64 → List Key) : Prop where
  page : ∀ i, ofKeys keys i size b = .ok (pages i)
  decoded : ∀ i, decode (pages i).payload = .ok (contents i)
  whole : ((List.range n.toNat).flatMap fun i => contents i.toUInt64) =
    keys.take (sharedCount b keys.length)
  full : ∀ i, i.toNat + 1 < n.toNat → (contents i).length = size.toNat ∧ (pages i).span.more = true
  last : ∀ i, i.toNat + 1 = n.toNat → (pages i).span.more = false ∧
    (contents i = [] → sharedCount b keys.length = 0)
  beyond : ∀ i, n ≤ i → contents i = [] ∧ (pages i).span.more = false

theorem readsBack (hlen : keys.length < UInt64.size) (hs : size ≠ 0) (b : Boundary) :
    ReadsBack keys size b (countFrom keys.length.toUInt64 size b hs 0)
      (fun i => ofSpan keys i (cut keys.length.toUInt64 i size b))
      (fun i => covered keys (cut keys.length.toUInt64 i size b)) := by
  obtain ⟨-, hall, hfull⟩ := countFrom_spec (b := b) hlen hs 0 (by decide)
  generalize countFrom keys.length.toUInt64 size b hs 0 = n at hall hfull
  exact {
    page := fun i => by
      rw [ofKeys, spanAt, if_neg hs]
      rfl
    decoded := fun i => decode_ofSpan keys i _
    whole := by rw [flatMap_covered hlen n hall, take_sharedCount]
    full := by
      intro i hi
      have hbelow := hfull i.toNat (Nat.zero_le _) hi
      refine ⟨?_, (more_iff i size b hlen).mpr hbelow⟩
      rw [covered_cut i size b hlen, List.length_take, List.length_drop]
      omega
    last := by
      intro i hi
      rw [← hi, Nat.succ_mul] at hall
      refine ⟨(more_eq_false_iff hlen i).mpr hall, fun hempty => ?_⟩
      have hbegins := (covered_eq_nil_iff hlen hs i).mp hempty
      rw [← length_shared_eq]
      -- If the last page is empty and not the first, the page before it has no successor.
      rcases Nat.eq_zero_or_eq_succ_pred i.toNat with hzero | hsucc
      · rw [hzero, Nat.zero_mul] at hbegins
        exact Nat.eq_zero_of_le_zero hbegins
      · have hbefore := hfull i.toNat.pred (Nat.zero_le _) (by omega)
        rw [hsucc, Nat.succ_mul] at hbegins
        exact absurd hbefore (Nat.not_lt.mpr hbegins)
    beyond := by
      intro i hi
      have hle : n.toNat * size.toNat ≤ i.toNat * size.toNat :=
        Nat.mul_le_mul_right _ (UInt64.le_iff_toNat_le.mp hi)
      exact ⟨(covered_eq_nil_iff hlen hs i).mpr (hall.trans hle),
        (more_eq_false_iff hlen i).mpr ((hall.trans hle).trans (Nat.le_add_right _ _))⟩ }

/-- Paging a history and reading the pages back loses nothing: the pages that are counted give the
shared keys, which make up a history again. -/
theorem pages_lossless (hc : Chronicle keys) (hlen : keys.length < UInt64.size) (hs : size ≠ 0)
    (b : Boundary) :
    ∃ n, 0 < n ∧ count keys.length.toUInt64 size b = .ok n ∧
      ∃ pages contents, ReadsBack keys size b n pages contents ∧
        ∃ history, History.ofKeys ((List.range n.toNat).flatMap fun i => contents i.toUInt64) =
            .ok history ∧ history.keys = keys.take (sharedCount b keys.length) := by
  have hpos : 0 < countFrom keys.length.toUInt64 size b hs 0 :=
    UInt64.lt_iff_toNat_lt.mpr (countFrom_spec hlen hs 0 (by decide)).1
  have hreads := readsBack hlen hs b
  have hchronicle := hc.of_isPrefix (List.take_prefix (sharedCount b keys.length) keys)
  refine ⟨_, hpos, dif_neg hs, _, _, hreads,
    History.empty.extend (keys.take (sharedCount b keys.length)), ?_, List.nil_append _⟩
  rw [hreads.whole]
  exact History.ofKeys_eq hchronicle

/-- Keys with parts that a text has to escape, and with the first and the last time there is. -/
def awkwardKeys : List Key := [
  ⟨"\"quoted\"", "back\\slash", "new\nline", "\x00\x1f\x7f", 0⟩,
  ⟨"", "/", "\t\r", "é漢😀", 5⟩,
  ⟨"ключ", "", "", "", 5⟩,
  ⟨"last", "", "", "", 18446744073709551615⟩]

theorem pages_lossless_awkward : Chronicle awkwardKeys ∧ awkwardKeys.length < UInt64.size ∧
    (2 : UInt64) ≠ 0 ∧
    ∃ n, 0 < n ∧ count awkwardKeys.length.toUInt64 2 .compat = .ok n ∧
      ∃ pages contents, ReadsBack awkwardKeys 2 .compat n pages contents ∧
        ∃ history, History.ofKeys ((List.range n.toNat).flatMap fun i => contents i.toUInt64) =
            .ok history ∧ history.keys = awkwardKeys.take 3 :=
  have hc : Chronicle awkwardKeys := ⟨by decide, by decide⟩
  have hlen : awkwardKeys.length < UInt64.size := by decide
  ⟨hc, hlen, by decide, pages_lossless hc hlen (by decide) .compat⟩

end Keyring.Page
