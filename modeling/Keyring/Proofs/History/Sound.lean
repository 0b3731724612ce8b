import Keyring.History.Basic
import Keyring.Proofs.History.Chronicle

namespace Keyring.History

/-- A history of a chronicle whose index gives each id its position and nothing else. -/
structure Sound (h : History) : Prop where
  lookup_eq_some_iff : ∀ id i, h.lookup id = some i ↔ ∃ k, h.keys[i]? = some k ∧ k.id = id
  chronicle : Chronicle h.keys

namespace Sound

variable {h h' : History} {batch : List Key}

theorem empty : Sound empty := by
  refine ⟨?_, Chronicle.nil⟩
  intro id i
  simp [lookup, History.empty]

theorem contains_iff (hs : Sound h) (id : String) :
    h.contains id = true ↔ id ∈ Key.ids h.keys := by
  have hsome : h.contains id = (h.lookup id).isSome := by
    rw [contains, Std.HashMap.contains_eq_isSome_getElem?]
    rfl
  rw [hsome, Option.isSome_iff_exists, List.mem_map]
  constructor
  · rintro ⟨i, hi⟩
    obtain ⟨k, hk, hid⟩ := (hs.lookup_eq_some_iff id i).mp hi
    exact ⟨k, List.mem_of_getElem? hk, hid⟩
  · rintro ⟨k, hk, hid⟩
    obtain ⟨i, hi⟩ := List.getElem?_of_mem hk
    exact ⟨i, (hs.lookup_eq_some_iff id i).mpr ⟨k, hi, hid⟩⟩

theorem get?_eq_some_iff (hs : Sound h) (id : String) (k : Key) :
    h.get? id = some k ↔ k ∈ h.keys ∧ k.id = id := by
  rw [get?, Option.bind_eq_some_iff]
  constructor
  · rintro ⟨i, hi, hk⟩
    obtain ⟨k', hk', hid⟩ := (hs.lookup_eq_some_iff id i).mp hi
    rw [hk', Option.some.injEq] at hk
    subst hk
    exact ⟨List.mem_of_getElem? hk', hid⟩
  · rintro ⟨hk, hid⟩
    obtain ⟨i, hi⟩ := List.getElem?_of_mem hk
    exact ⟨i, (hs.lookup_eq_some_iff id i).mpr ⟨k, hi, hid⟩, hi⟩

theorem get?_eq_none_iff (hs : Sound h) (id : String) :
    h.get? id = none ↔ id ∉ Key.ids h.keys := by
  constructor
  · intro hnone hid
    obtain ⟨k, hk, rfl⟩ := List.mem_map.mp hid
    rw [(hs.get?_eq_some_iff k.id k).mpr ⟨hk, rfl⟩] at hnone
    exact Option.some_ne_none k hnone
  · intro hid
    refine Option.eq_none_iff_forall_ne_some.mpr fun k hk => hid ?_
    obtain ⟨hmem, rfl⟩ := (hs.get?_eq_some_iff id k).mp hk
    exact List.mem_map_of_mem hmem

theorem get?_eq_find? (hs : Sound h) (id : String) : h.get? id = h.keys.find? (·.id == id) := by
  cases hfind : h.keys.find? (·.id == id) with
  | none =>
      rw [hs.get?_eq_none_iff]
      simpa [Key.ids] using hfind
  | some k =>
      rw [hs.get?_eq_some_iff]
      exact ⟨List.mem_of_find?_eq_some hfind, by simpa using List.find?_some hfind⟩

end Sound

theorem check_eq_ok (h : History) {batch : List Key} {seen : Std.HashSet String}
    {before : Option UInt64} (hold : ∀ k ∈ batch, h.contains k.id = false)
    (hseen : ∀ k ∈ batch, seen.contains k.id = false) (hdistinct : (Key.ids batch).Nodup)
    (hordered : batch.Pairwise fun a b => a.time ≤ b.time)
    (hbefore : ∀ t, before = some t → ∀ k ∈ batch, t ≤ k.time) :
    h.check seen before batch = .ok () := by
  induction batch generalizing seen before with
  | nil => rfl
  | cons k rest ih =>
      have hfresh : (h.contains k.id || seen.contains k.id) = false := by
        rw [hold k (by simp), hseen k (by simp)]
        rfl
      have hrest : h.check (seen.insert k.id) (some k.time) rest = .ok () := by
        have hnodup := List.nodup_cons.mp hdistinct
        have hpairwise := List.pairwise_cons.mp hordered
        refine ih (fun a ha => hold a (by simp [ha])) ?_ hnodup.2 hpairwise.2 ?_
        · intro a ha
          have hne : k.id ≠ a.id := fun heq =>
            hnodup.1 (heq ▸ List.mem_map_of_mem ha)
          rw [Std.HashSet.contains_insert, hseen a (by simp [ha])]
          simp [hne]
        · intro t ht a ha
          rw [← Option.some.inj ht]
          exact hpairwise.1 a ha
      cases before with
      | none => simpa [check, hfresh] using hrest
      | some t =>
          have hle : ¬ k.time < t := UInt64.not_lt.mpr (hbefore t rfl k (by simp))
          simpa [check, hfresh, hle] using hrest

theorem of_check_eq_ok {h : History} {batch : List Key} {seen : Std.HashSet String}
    {before : Option UInt64} (hcheck : h.check seen before batch = .ok ()) :
    (∀ k ∈ batch, h.contains k.id = false ∧ seen.contains k.id = false) ∧
      (Key.ids batch).Nodup ∧ (batch.Pairwise fun a b => a.time ≤ b.time) ∧
      ∀ t, before = some t → ∀ k ∈ batch, t ≤ k.time := by
  induction batch generalizing seen before with
  | nil => simp
  | cons k rest ih =>
      unfold check at hcheck
      by_cases hknown : (h.contains k.id || seen.contains k.id) = true
      · rw [if_pos hknown] at hcheck
        exact nomatch hcheck
      · rw [if_neg hknown] at hcheck
        have hrest : h.check (seen.insert k.id) (some k.time) rest = .ok () ∧
            ∀ t, before = some t → t ≤ k.time := by
          cases before with
          | none => exact ⟨hcheck, nofun⟩
          | some t =>
              simp only at hcheck
              by_cases hlt : k.time < t
              · rw [if_pos hlt] at hcheck
                exact nomatch hcheck
              · rw [if_neg hlt] at hcheck
                exact ⟨hcheck, fun _ ht => Option.some.inj ht ▸ UInt64.not_lt.mp hlt⟩
        obtain ⟨hnew, hdistinct, hordered, hbefore⟩ := ih hrest.1
        have hlater : ∀ a ∈ rest, k.time ≤ a.time := hbefore k.time rfl
        simp only [Bool.not_eq_true, Bool.or_eq_false_iff] at hknown
        simp only [Std.HashSet.contains_insert, Bool.or_eq_false_iff, beq_eq_false_iff_ne] at hnew
        refine ⟨?_, ?_, List.pairwise_cons.mpr ⟨hlater, hordered⟩, ?_⟩
        · intro a ha
          rcases List.mem_cons.mp ha with rfl | ha
          · exact hknown
          · exact ⟨(hnew a ha).1, (hnew a ha).2.2⟩
        · refine List.nodup_cons.mpr ⟨?_, hdistinct⟩
          intro hmem
          obtain ⟨a, ha, hid⟩ := List.mem_map.mp hmem
          exact (hnew a ha).2.1 hid.symm
        · intro t ht a ha
          rcases List.mem_cons.mp ha with rfl | ha
          · exact hrest.2 t ht
          · exact UInt64.le_trans (hrest.2 t ht) (hlater a ha)

theorem index_getElem? {positions : Std.HashMap String Nat} {next : Nat} {batch : List Key}
    (hdistinct : (Key.ids batch).Nodup) (id : String) (i : Nat) :
    (index positions next batch)[id]? = some i ↔
      (∃ j k, batch[j]? = some k ∧ k.id = id ∧ i = next + j) ∨
        (id ∉ Key.ids batch ∧ positions[id]? = some i) := by
  induction batch generalizing positions next with
  | nil => simp [index]
  | cons k rest ih =>
      have hnodup := List.nodup_cons.mp hdistinct
      rw [index, ih hnodup.2, Std.HashMap.getElem?_insert]
      by_cases hid : k.id = id
      · subst hid
        constructor
        · rintro (⟨j, a, ha, hak, -⟩ | ⟨-, hi⟩)
          · exact absurd (hak ▸ List.mem_map_of_mem (List.mem_of_getElem? ha)) hnodup.1
          · exact .inl ⟨0, k, rfl, rfl, by simpa using hi.symm⟩
        · rintro (⟨j, a, ha, hak, rfl⟩ | ⟨hnew, -⟩)
          · cases j with
            | zero => exact .inr ⟨hnodup.1, by simp⟩
            | succ j =>
                have hmem : a ∈ rest := List.mem_of_getElem? ha
                exact absurd (hak ▸ List.mem_map_of_mem hmem) hnodup.1
          · exact absurd (by simp) hnew
      · simp only [beq_iff_eq, hid, if_false]
        constructor
        · rintro (⟨j, a, ha, hak, rfl⟩ | ⟨hnew, hi⟩)
          · exact .inl ⟨j + 1, a, ha, hak, by omega⟩
          · refine .inr ⟨?_, hi⟩
            simp only [Key.ids, List.map_cons, List.mem_cons, not_or]
            exact ⟨fun heq => hid heq.symm, hnew⟩
        · rintro (⟨j, a, ha, hak, rfl⟩ | ⟨hnew, hi⟩)
          · cases j with
            | zero =>
                have hka : k = a := by simpa using ha
                exact absurd (hka ▸ hak) hid
            | succ j => exact .inl ⟨j, a, ha, hak, by omega⟩
          · simp only [Key.ids, List.map_cons, List.mem_cons, not_or] at hnew
            exact .inr ⟨hnew.2, hi⟩

def extend (h : History) (batch : List Key) : History :=
  ⟨h.keys ++ batch, index h.positions h.size batch⟩

theorem Sound.append_eq {h : History} {batch : List Key} (hs : h.Sound)
    (hc : Chronicle (h.keys ++ batch)) : h.append batch = .ok (h.extend batch) := by
  have hids : (Key.ids h.keys ++ Key.ids batch).Nodup := by
    simpa [Key.ids] using hc.distinct
  have htimes := List.pairwise_append.mp hc.ordered
  have hcheck : h.check ∅ (h.keys.getLast?.map Key.time) batch = .ok () := by
    refine check_eq_ok h ?_ (by simp) (List.nodup_append.mp hids).2.1 htimes.2.1 ?_
    · intro k hk
      rw [Bool.eq_false_iff]
      exact fun hold => hc.not_mem_ids hk ((hs.contains_iff k.id).mp hold)
    · intro t ht k hk
      obtain ⟨last, hlast, rfl⟩ := Option.map_eq_some_iff.mp ht
      exact htimes.2.2 last (List.mem_of_getLast? hlast) k hk
  rw [append, hcheck]
  rfl

theorem Sound.extend {h : History} {batch : List Key} (hs : h.Sound)
    (hc : Chronicle (h.keys ++ batch)) : (h.extend batch).Sound := by
  have hids : (Key.ids h.keys ++ Key.ids batch).Nodup := by
    simpa [Key.ids] using hc.distinct
  refine ⟨fun id i => ?_, hc⟩
  show (index h.positions h.size batch)[id]? = some i ↔
    ∃ k, (h.keys ++ batch)[i]? = some k ∧ k.id = id
  rw [index_getElem? (List.nodup_append.mp hids).2.1]
  constructor
  · rintro (⟨j, k, hk, hid, rfl⟩ | ⟨-, hi⟩)
    · refine ⟨k, ?_, hid⟩
      rw [List.getElem?_append_right (by simp [size]), size, Nat.add_sub_cancel_left]
      exact hk
    · obtain ⟨k, hk, hid⟩ := (hs.lookup_eq_some_iff id i).mp hi
      obtain ⟨hlt, -⟩ := List.getElem?_eq_some_iff.mp hk
      exact ⟨k, (List.getElem?_append_left hlt).trans hk, hid⟩
  · rintro ⟨k, hk, rfl⟩
    by_cases hlt : i < h.keys.length
    · rw [List.getElem?_append_left hlt] at hk
      have hold : k.id ∈ Key.ids h.keys := List.mem_map_of_mem (List.mem_of_getElem? hk)
      refine .inr ⟨fun hb => ?_, (hs.lookup_eq_some_iff k.id i).mpr ⟨k, hk, rfl⟩⟩
      exact (List.nodup_append.mp hids).2.2 k.id hold k.id hb rfl
    · rw [List.getElem?_append_right (by omega)] at hk
      exact .inl ⟨i - h.keys.length, k, hk, rfl, by simp only [size]; omega⟩

theorem Sound.of_append_eq_ok {h h' : History} {batch : List Key} (hs : h.Sound)
    (happend : h.append batch = .ok h') : h'.Sound ∧ h'.keys = h.keys ++ batch := by
  rw [append] at happend
  cases hcheck : h.check ∅ (h.keys.getLast?.map Key.time) batch with
  | error e =>
      rw [hcheck] at happend
      exact nomatch happend
  | ok u =>
      rw [hcheck] at happend
      obtain ⟨hnew, hdistinct, hordered, hlater⟩ := of_check_eq_ok hcheck
      have hc : Chronicle (h.keys ++ batch) := by
        refine ⟨?_, ?_⟩
        · simp only [Key.ids, List.map_append]
          refine List.nodup_append.mpr ⟨hs.chronicle.distinct, hdistinct, ?_⟩
          rintro _ hold id hid rfl
          obtain ⟨k, hk, rfl⟩ := List.mem_map.mp hid
          have hknown := (hs.contains_iff k.id).mpr hold
          rw [(hnew k hk).1] at hknown
          exact Bool.false_ne_true hknown
        · refine List.pairwise_append.mpr ⟨hs.chronicle.ordered, hordered, ?_⟩
          intro a ha b hb
          obtain ⟨last, hlast⟩ : ∃ last, h.keys.getLast? = some last :=
            ⟨_, List.getLast?_eq_some_getLast (List.ne_nil_of_mem ha)⟩
          exact UInt64.le_trans (hs.chronicle.le_last hlast ha)
            (hlater last.time (by rw [hlast]; rfl) b hb)
      rw [← Except.ok.inj happend]
      exact ⟨hs.extend hc, rfl⟩

theorem Sound.filter_new {h : History} {batch : List Key} (hs : h.Sound)
    (hc : Chronicle (h.keys ++ batch)) : (batch.filter fun k => !h.contains k.id) = batch := by
  rw [List.filter_eq_self]
  intro k hk
  rw [Bool.not_eq_true', Bool.eq_false_iff]
  exact fun hold => hc.not_mem_ids hk ((hs.contains_iff k.id).mp hold)

theorem cursor_eq {h : History} {last : Key} (hlast : h.keys.getLast? = some last) :
    h.cursor = .ok last.cursor := by
  rw [cursor, latest, hlast]
  rfl

theorem ofKeys_eq {keys : List Key} (hc : Chronicle keys) :
    ofKeys keys = .ok (empty.extend keys) :=
  Sound.empty.append_eq hc

theorem Sound.ofKeys {keys : List Key} (hc : Chronicle keys) :
    (History.empty.extend keys).Sound :=
  Sound.empty.extend hc

end Keyring.History
