import Keyring.Json.Printer
import Keyring.Key.Json
import Keyring.Page.Boundary
import Keyring.Saturating

/-!
A key history in pages of a fixed size. Positions are 64-bit words; a product that exceeds them
stops at the largest word, which lies behind the end of every history.
-/

namespace Keyring.Page

/-- The positions that a page covers, and whether another page follows. -/
structure Span where
  start : UInt64
  stop : UInt64
  more : Bool
  deriving DecidableEq, Repr

def Span.size (s : Span) : UInt64 :=
  s.stop - s.start

/-- The page at an index, for a size that is not zero. -/
def cut (count index size : UInt64) (b : Boundary) : Span :=
  let offset := Saturating.mul index size
  let stop := min (Saturating.add offset size) (b.limit count)
  ⟨min offset stop, stop, stop < b.limit count⟩

/-- The page at an index. Pages of no key would never come to an end. -/
def spanAt (count index size : UInt64) (b : Boundary) : Except Failure Span :=
  if size = 0 then .error .invalidPageSize else .ok (cut count index size b)

theorem limit_le (b : Boundary) (count : UInt64) : b.limit count ≤ count := by
  cases b with
  | inclusive => exact UInt64.le_refl count
  | compat =>
    unfold Boundary.limit
    by_cases h : count = 0
    · simp [h]
    · have h' : count.toNat ≠ 0 := fun e => h (UInt64.toNat_inj.1 e)
      have one : (1 : UInt64).toNat = 1 := rfl
      have le : (1 : UInt64) ≤ count := by rw [UInt64.le_iff_toNat_le]; omega
      simp only [h, if_false]
      rw [UInt64.le_iff_toNat_le, UInt64.toNat_sub_of_le _ _ le]
      omega

theorem index_lt_of_more {count index size : UInt64} {b : Boundary} (hs : size ≠ 0)
    (h : (cut count index size b).more = true) : index.toNat < count.toNat := by
  have hs' : 0 < size.toNat := by
    have : size.toNat ≠ 0 := fun e => hs (UInt64.toNat_inj.1 e)
    omega
  have hl := UInt64.le_iff_toNat_le.1 (limit_le b count)
  have hm : index.toNat ≤ index.toNat * size.toNat := Nat.le_mul_of_pos_right _ hs'
  have hlt : Saturating.add (Saturating.mul index size) size < b.limit count := by
    simp only [cut, decide_eq_true_eq, UInt64.lt_iff_toNat_lt, Saturating.toNat_min] at h ⊢
    omega
  rw [UInt64.lt_iff_toNat_lt, Saturating.toNat_add, Saturating.toNat_mul,
    Saturating.toNat_top] at hlt
  have := index.toNat_lt
  have := count.toNat_lt
  omega

theorem measure_lt {count index size : UInt64} {b : Boundary} (hs : size ≠ 0)
    (h : (cut count index size b).more = true) :
    count.toNat - (index + 1).toNat < count.toNat - index.toNat := by
  have hi := index_lt_of_more hs h
  have one : (1 : UInt64).toNat = 1 := rfl
  have := count.toNat_lt
  rw [UInt64.toNat_add]
  omega

/-- The number of pages when going on from an index for as long as another page follows. -/
def countFrom (count size : UInt64) (b : Boundary) (hs : size ≠ 0) (index : UInt64) : UInt64 :=
  if h : (cut count index size b).more = true then countFrom count size b hs (index + 1)
  else index + 1
termination_by count.toNat - index.toNat
decreasing_by exact measure_lt hs h

/-- The number of pages of a history of `count` keys, of which there is always one. -/
def count (count size : UInt64) (b : Boundary) : Except Failure UInt64 :=
  if hs : size = 0 then .error .invalidPageSize else .ok (countFrom count size b hs 0)

end Keyring.Page

namespace Keyring

/-- A page of a key history, ready to be sent. -/
structure Page where
  index : UInt64
  /-- The keys of the page, as JSON. -/
  payload : String
  span : Page.Span
  deriving DecidableEq, Repr

namespace Page

/-- The page of a list of keys that covers a span. -/
def ofSpan (keys : List Key) (index : UInt64) (s : Span) : Page :=
  let slice := (keys.drop s.start.toNat).take s.size.toNat
  ⟨index, (Key.listToJson slice).render, s⟩

/-- The page of a list of keys at an index. -/
def ofKeys (keys : List Key) (index size : UInt64) (b : Boundary) : Except Failure Page :=
  (spanAt keys.length.toUInt64 index size b).map (ofSpan keys index)

def decode (payload : String) : Except Failure (List Key) :=
  Json.decode Key.listOfJson payload

/-- The pages from an index on, up to the first without a successor. -/
def following (keys : List Key) (size : UInt64) (b : Boundary) (hs : size ≠ 0) (index : UInt64) :
    List Page :=
  let s := cut keys.length.toUInt64 index size b
  if h : s.more = true then
    ofSpan keys index s :: following keys size b hs (index + 1)
  else [ofSpan keys index s]
termination_by keys.length.toUInt64.toNat - index.toNat
decreasing_by exact measure_lt hs h

end Page

end Keyring
