import Mathlib.Data.List.Infix
import Mathlib.Data.List.Nodup
import Keyring.Key.Basic

namespace Keyring

abbrev Key.ids (keys : List Key) : List String :=
  keys.map Key.id

/-- A list of keys in which ids are distinct and times do not decrease. -/
structure Chronicle (keys : List Key) : Prop where
  distinct : (Key.ids keys).Nodup
  ordered : keys.Pairwise fun a b => a.time ≤ b.time

namespace Chronicle

variable {keys log : List Key}

theorem nil : Chronicle [] :=
  ⟨List.nodup_nil, List.Pairwise.nil⟩

theorem of_isPrefix (h : Chronicle log) (hp : keys <+: log) : Chronicle keys :=
  ⟨h.distinct.sublist (hp.sublist.map Key.id), h.ordered.sublist hp.sublist⟩

theorem not_mem_ids {batch : List Key} (h : Chronicle (keys ++ batch)) {k : Key} (hk : k ∈ batch) :
    k.id ∉ Key.ids keys := by
  have hids : (Key.ids keys ++ Key.ids batch).Nodup := by
    simpa [Key.ids] using h.distinct
  exact fun hold => (List.nodup_append.mp hids).2.2 k.id hold k.id (List.mem_map_of_mem hk) rfl

theorem snoc (h : Chronicle keys) {k : Key} (hid : k.id ∉ Key.ids keys)
    (htime : ∀ last, keys.getLast? = some last → last.time ≤ k.time) :
    Chronicle (keys ++ [k]) := by
  refine ⟨?_, ?_⟩
  · simp only [Key.ids, List.map_append, List.map_cons, List.map_nil]
    exact List.nodup_append.mpr ⟨h.distinct, List.nodup_singleton _, by
      intro a ha b hb
      rw [List.mem_singleton.mp hb]
      exact fun heq => hid (heq ▸ ha)⟩
  · rw [List.pairwise_append]
    refine ⟨h.ordered, List.pairwise_singleton _ _, ?_⟩
    intro a ha b hb
    rw [List.mem_singleton.mp hb]
    rcases List.eq_nil_or_concat keys with rfl | ⟨front, last, rfl⟩
    · simp at ha
    · have hlast : last.time ≤ k.time := htime last (by simp)
      rw [List.concat_eq_append] at ha h
      rcases List.mem_append.mp ha with hfront | hback
      · exact UInt64.le_trans
          ((List.pairwise_append.mp h.ordered).2.2 a hfront last (by simp)) hlast
      · rw [List.mem_singleton.mp hback]
        exact hlast

theorem le_last (h : Chronicle keys) {last k : Key} (hlast : keys.getLast? = some last)
    (hk : k ∈ keys) : k.time ≤ last.time := by
  obtain ⟨front, rfl⟩ := List.getLast?_eq_some_iff.mp hlast
  rcases List.mem_append.mp hk with hfront | hback
  · exact (List.pairwise_append.mp h.ordered).2.2 k hfront last (by simp)
  · rw [List.mem_singleton.mp hback]
    exact UInt64.le_refl _

end Chronicle

end Keyring
