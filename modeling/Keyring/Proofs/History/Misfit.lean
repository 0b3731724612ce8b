import Keyring.Proofs.History.Sound

namespace Keyring

/-- Whether a batch goes on where a list of keys ends: no id is known already or comes twice, and
time, from the last of the keys on, does not go back. -/
structure Extends (keys batch : List Key) : Prop where
  fresh : ∀ k ∈ batch, k.id ∉ Key.ids keys
  distinct : (Key.ids batch).Nodup
  ordered : (keys.getLast?.toList ++ batch).Pairwise fun a b => a.time ≤ b.time

/-- What is wrong with a key that is to go behind a list of keys: its id is known, or else it is
older than the last of them. -/
inductive Misfit (keys : List Key) (k : Key) : Failure → Prop
  | repeated (hknown : k.id ∈ Key.ids keys) : Misfit keys k (.duplicateKey k.id)
  | late {last : Key} (hnew : k.id ∉ Key.ids keys) (hlast : keys.getLast? = some last)
      (hlate : k.time < last.time) : Misfit keys k (.keyOutOfOrder k.id k.time last.time)

/-- What is wrong with a batch that is to go behind a list of keys: what is wrong with the key at a
position of it, where the keys at all positions before fit. -/
structure FirstMisfit (keys batch : List Key) (position : Nat) (e : Failure) : Prop where
  misfit : ∃ k, batch[position]? = some k ∧ Misfit (keys ++ batch.take position) k e
  fits : ∀ i k, i < position → batch[i]? = some k → ∀ e', ¬ Misfit (keys ++ batch.take i) k e'

variable {keys batch rest : List Key} {k : Key} {e : Failure}

theorem extends_iff_chronicle (hc : Chronicle keys) :
    Extends keys batch ↔ Chronicle (keys ++ batch) := by
  constructor
  · rintro ⟨hfresh, hdistinct, hordered⟩
    refine ⟨?_, List.pairwise_append.mpr ⟨hc.ordered, ?_, ?_⟩⟩
    · simp only [Key.ids, List.map_append]
      refine List.nodup_append.mpr ⟨hc.distinct, hdistinct, ?_⟩
      rintro _ hold id hid rfl
      obtain ⟨k, hk, rfl⟩ := List.mem_map.mp hid
      exact hfresh k hk hold
    · exact (List.pairwise_append.mp hordered).2.1
    · intro a ha b hb
      obtain ⟨last, hlast⟩ : ∃ last, keys.getLast? = some last :=
        ⟨_, List.getLast?_eq_some_getLast (List.ne_nil_of_mem ha)⟩
      have hlater := (List.pairwise_append.mp hordered).2.2 last (by simp [hlast]) b hb
      exact UInt64.le_trans (hc.le_last hlast ha) hlater
  · intro hc'
    have hids : (Key.ids keys ++ Key.ids batch).Nodup := by
      simpa [Key.ids] using hc'.distinct
    refine ⟨fun k hk => hc'.not_mem_ids hk, (List.nodup_append.mp hids).2.1, ?_⟩
    refine hc'.ordered.sublist (List.Sublist.append_right ?_ batch)
    cases hlast : keys.getLast? with
    | none => exact List.nil_sublist keys
    | some last => exact List.singleton_sublist.mpr (List.mem_of_getLast? hlast)

theorem Misfit.unique {e' : Failure} (h : Misfit keys k e) (h' : Misfit keys k e') : e = e' := by
  cases h with
  | repeated hknown =>
      cases h' with
      | repeated => rfl
      | late hnew => exact absurd hknown hnew
  | late hnew hlast =>
      cases h' with
      | repeated hknown => exact absurd hknown hnew
      | late _ hlast' =>
          rw [hlast] at hlast'
          rw [Option.some.inj hlast']

theorem not_misfit (hnew : k.id ∉ Key.ids keys)
    (htime : ∀ last, keys.getLast? = some last → ¬ k.time < last.time) :
    ∀ e, ¬ Misfit keys k e := by
  rintro _ (hknown | ⟨-, hlast, hlate⟩)
  · exact hnew hknown
  · exact htime _ hlast hlate

namespace FirstMisfit

theorem not_lt {i j : Nat} {e' : Failure} (h : FirstMisfit keys batch i e)
    (h' : FirstMisfit keys batch j e') : ¬ i < j := by
  intro hlt
  obtain ⟨k, hk, hmisfit⟩ := h.misfit
  exact h'.fits i k hlt hk e hmisfit

theorem unique {i j : Nat} {e' : Failure} (h : FirstMisfit keys batch i e)
    (h' : FirstMisfit keys batch j e') : i = j ∧ e = e' := by
  obtain rfl : i = j := Nat.le_antisymm (Nat.not_lt.mp (h'.not_lt h)) (Nat.not_lt.mp (h.not_lt h'))
  obtain ⟨k, hk, hmisfit⟩ := h.misfit
  obtain ⟨k', hk', hmisfit'⟩ := h'.misfit
  rw [hk] at hk'
  obtain rfl := Option.some.inj hk'
  exact ⟨rfl, hmisfit.unique hmisfit'⟩

theorem head (h : Misfit keys k e) : FirstMisfit keys (k :: rest) 0 e :=
  ⟨⟨k, rfl, by simpa using h⟩, by simp⟩

theorem tail {position : Nat} (hk : ∀ e', ¬ Misfit keys k e')
    (h : FirstMisfit (keys ++ [k]) rest position e) :
    FirstMisfit keys (k :: rest) (position + 1) e := by
  obtain ⟨⟨a, ha, hmisfit⟩, hfits⟩ := h
  refine ⟨⟨a, ha, by simpa using hmisfit⟩, fun i b hi hb e' => ?_⟩
  cases i with
  | zero =>
      obtain rfl : k = b := by simpa using hb
      simpa using hk e'
  | succ i => simpa using hfits i b (Nat.lt_of_succ_lt_succ hi) hb e'

end FirstMisfit

namespace History

variable {h : History}

theorem Sound.known_iff (hs : h.Sound) {front : List Key} {seen : Std.HashSet String}
    (hseen : ∀ id, seen.contains id = true ↔ id ∈ Key.ids front) (id : String) :
    (h.contains id || seen.contains id) = true ↔ id ∈ Key.ids (h.keys ++ front) := by
  rw [Bool.or_eq_true, hs.contains_iff, hseen]
  simp only [Key.ids, List.map_append, List.mem_append]

theorem contains_insert_iff {front : List Key} {seen : Std.HashSet String}
    (hseen : ∀ id, seen.contains id = true ↔ id ∈ Key.ids front) (k : Key) (id : String) :
    (seen.insert k.id).contains id = true ↔ id ∈ Key.ids (front ++ [k]) := by
  rw [Std.HashSet.contains_insert, Bool.or_eq_true, beq_iff_eq, hseen]
  simp only [Key.ids, List.map_append, List.map_cons, List.map_nil, List.mem_append,
    List.mem_singleton]
  rw [or_comm, eq_comm]

/-- The check of a batch fails for the next key or goes on behind it. What has been checked before,
the ids in `seen` and the time of the key before, is that of the keys in `front`. -/
theorem Sound.check_cons (hs : h.Sound) {front : List Key} {seen : Std.HashSet String}
    (hseen : ∀ id, seen.contains id = true ↔ id ∈ Key.ids front) (k : Key) (rest : List Key) :
    (∃ e, Misfit (h.keys ++ front) k e ∧
        h.check seen ((h.keys ++ front).getLast?.map Key.time) (k :: rest) = .error e) ∨
      ((∀ e, ¬ Misfit (h.keys ++ front) k e) ∧
        h.check seen ((h.keys ++ front).getLast?.map Key.time) (k :: rest) =
          h.check (seen.insert k.id) ((h.keys ++ (front ++ [k])).getLast?.map Key.time) rest) := by
  have hknown := hs.known_iff hseen k.id
  have htime : (h.keys ++ (front ++ [k])).getLast?.map Key.time = some k.time := by simp
  rw [htime, check.eq_def]
  dsimp only
  by_cases hold : k.id ∈ Key.ids (h.keys ++ front)
  · rw [if_pos (hknown.mpr hold)]
    exact .inl ⟨_, .repeated hold, rfl⟩
  · rw [if_neg (mt hknown.mp hold)]
    cases hlast : (h.keys ++ front).getLast? with
    | none => exact .inr ⟨not_misfit hold (by simp [hlast]), rfl⟩
    | some last =>
        by_cases hlate : k.time < last.time
        · exact .inl ⟨_, .late hold hlast hlate, if_pos hlate⟩
        · refine .inr ⟨not_misfit hold fun last' hlast' => ?_, if_neg hlate⟩
          rw [hlast] at hlast'
          exact Option.some.inj hlast' ▸ hlate

theorem Sound.firstMisfit_of_check (hs : h.Sound) {front : List Key} {seen : Std.HashSet String}
    (hseen : ∀ id, seen.contains id = true ↔ id ∈ Key.ids front)
    (hcheck : h.check seen ((h.keys ++ front).getLast?.map Key.time) batch = .error e) :
    ∃ position, FirstMisfit (h.keys ++ front) batch position e := by
  induction batch generalizing front seen with
  | nil => cases hcheck
  | cons k rest ih =>
      rcases hs.check_cons hseen k rest with ⟨e', hmisfit, heq⟩ | ⟨hfits, heq⟩
      · rw [heq] at hcheck
        obtain rfl := Except.error.inj hcheck
        exact ⟨0, .head hmisfit⟩
      · rw [heq] at hcheck
        obtain ⟨position, hfirst⟩ := ih (contains_insert_iff hseen k) hcheck
        rw [← List.append_assoc] at hfirst
        exact ⟨position + 1, hfirst.tail hfits⟩

/-- A history takes exactly the batches that extend its keys. -/
theorem Sound.append_eq_ok_iff (hs : h.Sound) (batch : List Key) :
    h.append batch = .ok (h.extend batch) ↔ Extends h.keys batch := by
  rw [extends_iff_chronicle hs.chronicle]
  constructor
  · intro happend
    obtain ⟨hsound, hkeys⟩ := hs.of_append_eq_ok happend
    exact hkeys ▸ hsound.chronicle
  · exact hs.append_eq

theorem Sound.append_of_not_extends (hs : h.Sound) (hnot : ¬ Extends h.keys batch) :
    ∃ position e, FirstMisfit h.keys batch position e ∧ h.append batch = .error e := by
  cases hcheck : h.check ∅ (h.keys.getLast?.map Key.time) batch with
  | ok u =>
      have happend : h.append batch = .ok (h.extend batch) := by
        rw [append, hcheck]
        rfl
      exact absurd ((hs.append_eq_ok_iff batch).mp happend) hnot
  | error e =>
      have happend : h.append batch = .error e := by
        rw [append, hcheck]
      rw [← List.append_nil h.keys] at hcheck
      obtain ⟨position, hfirst⟩ := hs.firstMisfit_of_check (by simp) hcheck
      rw [List.append_nil] at hfirst
      exact ⟨position, e, hfirst, happend⟩

theorem Sound.lookup_extend (hs : h.Sound) (hextends : Extends h.keys batch) {id : String}
    {i : Nat} (hlookup : h.lookup id = some i) : (h.extend batch).lookup id = some i := by
  have hsound := hs.extend ((extends_iff_chronicle hs.chronicle).mp hextends)
  obtain ⟨k, hk, hid⟩ := (hs.lookup_eq_some_iff id i).mp hlookup
  refine (hsound.lookup_eq_some_iff id i).mpr ⟨k, ?_, hid⟩
  exact (List.getElem?_append_left (List.getElem?_eq_some_iff.mp hk).1).trans hk

theorem Sound.get?_extend (hs : h.Sound) (hextends : Extends h.keys batch) {id : String}
    (hget : h.get? id = some k) : (h.extend batch).get? id = some k := by
  have hsound := hs.extend ((extends_iff_chronicle hs.chronicle).mp hextends)
  obtain ⟨hmem, hid⟩ := (hs.get?_eq_some_iff id k).mp hget
  exact (hsound.get?_eq_some_iff id k).mpr ⟨List.mem_append_left batch hmem, hid⟩

end History

end Keyring
