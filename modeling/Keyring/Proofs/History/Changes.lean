import Mathlib.Data.List.Perm.Subperm
import Keyring.History.Json
import Keyring.Proofs.Group.RoundTrip

namespace Keyring.History

/-- A way in which a history comes about from the one before. -/
inductive Change where
  | append (batch : List Key)
  | replace (keys : List Key)
  | restore (text : String)

namespace Change

def result (h : History) : Change → Except Failure History
  | append batch => h.append batch
  | replace keys => ofKeys keys
  | restore text => History.restore text

/-- The history after a change: the old one if the change was refused. -/
def perform (h : History) (c : Change) : History :=
  match c.result h with
  | .ok h' => h'
  | .error _ => h

def performAll (changes : List Change) : History :=
  changes.foldl perform empty

end Change

variable {h : History}

theorem Sound.of_restore {text : String} (hrestore : restore text = .ok h) : h.Sound :=
  sound_of_ofJson (Json.decode_eq_ok_iff.mp hrestore).1

theorem Sound.of_result {c : Change} {h' : History} (hs : h.Sound) (hresult : c.result h = .ok h') :
    h'.Sound := by
  cases c with
  | append batch => exact (hs.of_append_eq_ok hresult).1
  | replace keys => exact (Sound.empty.of_append_eq_ok hresult).1
  | restore text => exact Sound.of_restore hresult

theorem Sound.perform (hs : h.Sound) (c : Change) : (c.perform h).Sound := by
  rw [Change.perform]
  cases hresult : c.result h with
  | ok h' => exact hs.of_result hresult
  | error e => exact hs

theorem Sound.foldl_perform (hs : h.Sound) (changes : List Change) :
    (changes.foldl Change.perform h).Sound := by
  induction changes generalizing h with
  | nil => exact hs
  | cons c rest ih => exact ih (hs.perform c)

theorem contains_eq_isSome_lookup (h : History) (id : String) :
    h.contains id = (h.lookup id).isSome := by
  rw [contains, Std.HashMap.contains_eq_isSome_getElem?]
  rfl

theorem Sound.size_positions (hs : h.Sound) : h.positions.size = h.size := by
  have hperm : h.positions.keys.Perm (Key.ids h.keys) := by
    refine (List.perm_ext_iff_of_nodup Std.HashMap.nodup_keys hs.chronicle.distinct).mpr ?_
    intro id
    rw [Std.HashMap.mem_keys, Std.HashMap.mem_iff_contains]
    exact hs.contains_iff id
  calc h.positions.size = h.positions.keys.length := Std.HashMap.length_keys.symm
    _ = (Key.ids h.keys).length := hperm.length_eq
    _ = h.size := List.length_map _

theorem Sound.isSome_get? (hs : h.Sound) (id : String) :
    (h.get? id).isSome = (h.lookup id).isSome := by
  cases hlookup : h.lookup id with
  | none => rw [get?, hlookup]; rfl
  | some i =>
      obtain ⟨k, hk, -⟩ := (hs.lookup_eq_some_iff id i).mp hlookup
      rw [get?, hlookup, Option.bind_some, hk]
      rfl

theorem latest_eq_ok_iff (h : History) (k : Key) :
    h.latest = .ok k ↔ h.keys.getLast? = some k := by
  rw [latest]
  cases h.keys.getLast? <;> simp

theorem latest_eq_error_iff (h : History) (e : Failure) :
    h.latest = .error e ↔ h.keys = [] ∧ e = .emptyHistory := by
  rw [← List.getLast?_eq_none_iff, latest]
  cases h.keys.getLast? <;> simp [eq_comm]

theorem cursor_eq_ok_iff (h : History) (c : Cursor) :
    h.cursor = .ok c ↔ ∃ k, h.keys.getLast? = some k ∧ c = ⟨k.time, k.id⟩ := by
  rw [cursor, latest]
  cases h.keys.getLast? <;> simp [Except.map, Key.cursor, eq_comm]

theorem cursor_eq_error_iff (h : History) (e : Failure) :
    h.cursor = .error e ↔ h.keys = [] ∧ e = .emptyHistory := by
  rw [← List.getLast?_eq_none_iff, cursor, latest]
  cases h.keys.getLast? <;> simp [Except.map, eq_comm]

/-- What can be asked of a history, in terms of its list of keys. -/
structure Described (h : History) : Prop where
  lookup_iff : ∀ id i, h.lookup id = some i ↔ i < h.size ∧ ∃ k, h.keys[i]? = some k ∧ k.id = id
  get_iff : ∀ id k, h.get? id = some k ↔ ∃ i, h.lookup id = some i ∧ h.keys[i]? = some k
  get_isSome : ∀ id, (h.get? id).isSome = (h.lookup id).isSome
  contains_eq : ∀ id, h.contains id = (h.lookup id).isSome
  index_size : h.positions.size = h.size
  distinct : (h.keys.map Key.id).Nodup
  ordered : h.keys.Pairwise fun a b => a.time ≤ b.time
  latest_iff : ∀ k, h.latest = .ok k ↔ h.keys.getLast? = some k
  cursor_iff : ∀ c, h.cursor = .ok c ↔ ∃ k, h.keys.getLast? = some k ∧ c = ⟨k.time, k.id⟩
  latest_error : ∀ e, h.latest = .error e ↔ h.keys = [] ∧ e = .emptyHistory
  cursor_error : ∀ e, h.cursor = .error e ↔ h.keys = [] ∧ e = .emptyHistory

theorem Sound.described (hs : h.Sound) : h.Described where
  lookup_iff id i := by
    rw [hs.lookup_eq_some_iff]
    constructor
    · rintro ⟨k, hk, hid⟩
      exact ⟨(List.getElem?_eq_some_iff.mp hk).1, k, hk, hid⟩
    · rintro ⟨-, hk⟩
      exact hk
  get_iff id k := by rw [get?, Option.bind_eq_some_iff]
  get_isSome := hs.isSome_get?
  contains_eq := h.contains_eq_isSome_lookup
  index_size := hs.size_positions
  distinct := hs.chronicle.distinct
  ordered := hs.chronicle.ordered
  latest_iff := h.latest_eq_ok_iff
  cursor_iff := h.cursor_eq_ok_iff
  latest_error := h.latest_eq_error_iff
  cursor_error := h.cursor_eq_error_iff

/-- However a history came about from the empty one, its list of keys is a chronicle and its index
is the one of that list. -/
theorem described_performAll (changes : List Change) : (Change.performAll changes).Described :=
  (Sound.empty.foldl_perform changes).described

end Keyring.History
