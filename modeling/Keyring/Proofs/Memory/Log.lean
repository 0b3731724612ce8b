import Keyring.Memory.Server
import Keyring.Proofs.History.Chronicle

namespace Keyring.Memory.Server

variable {log keys rest : List Key} {key : Key}

def enter (log : List Key) (key : Key) : List Key :=
  if log.any (·.id == key.id) then log
  else match log.getLast? with
    | some last => log ++ [{ key with time := max key.time last.time }]
    | none => log ++ [key]

theorem commit_eq (s : Server) (output : Rotation.Output) (key : Key) :
    s.commit output key = { s with
      log := enter s.log key
      pending := s.pending.filter (· ≠ output)
      committed := s.committed ++ [(output, key)] } :=
  rfl

theorem any_id_iff (log : List Key) (id : String) :
    log.any (·.id == id) = true ↔ id ∈ Key.ids log := by
  simp [Key.ids]

theorem enter_of_mem (h : key.id ∈ Key.ids log) : enter log key = log := by
  rw [enter, if_pos ((any_id_iff log key.id).mpr h)]

theorem enter_eq {last : Key} (h : key.id ∉ Key.ids log) (hlast : log.getLast? = some last) :
    enter log key = log ++ [{ key with time := max key.time last.time }] := by
  rw [enter, if_neg (fun hany => h ((any_id_iff log key.id).mp hany)), hlast]

theorem enter_of_not_mem (h : key.id ∉ Key.ids log) :
    ∃ time, enter log key = log ++ [{ key with time }] ∧
      ∀ last, log.getLast? = some last → last.time ≤ time := by
  cases hlast : log.getLast? with
  | none =>
      rw [enter, if_neg (fun hany => h ((any_id_iff log key.id).mp hany)), hlast]
      exact ⟨key.time, rfl, by simp⟩
  | some last =>
      refine ⟨max key.time last.time, enter_eq h hlast, ?_⟩
      intro last' hlast'
      rw [← Option.some.inj hlast']
      show last.time ≤ if key.time ≤ last.time then last.time else key.time
      split
      · exact UInt64.le_refl _
      · exact UInt64.le_of_lt (UInt64.not_le.mp ‹_›)

theorem prefix_enter (log : List Key) (key : Key) : log <+: enter log key := by
  by_cases h : key.id ∈ Key.ids log
  · rw [enter_of_mem h]
  · obtain ⟨time, heq, -⟩ := enter_of_not_mem h
    exact ⟨[{ key with time }], heq.symm⟩

theorem mem_ids_enter (log : List Key) (key : Key) (id : String) :
    id ∈ Key.ids (enter log key) ↔ id ∈ Key.ids log ∨ id = key.id := by
  by_cases h : key.id ∈ Key.ids log
  · rw [enter_of_mem h]
    constructor
    · exact .inl
    · rintro (hmem | rfl)
      · exact hmem
      · exact h
  · obtain ⟨time, heq, -⟩ := enter_of_not_mem h
    rw [heq]
    simp [Key.ids]

theorem chronicle_enter (h : Chronicle log) (key : Key) : Chronicle (enter log key) := by
  by_cases hid : key.id ∈ Key.ids log
  · rwa [enter_of_mem hid]
  · obtain ⟨time, heq, htime⟩ := enter_of_not_mem hid
    rw [heq]
    exact h.snoc hid htime

theorem position?_append {α : Type} {p : α → Bool} {front back : List α} {a : α}
    (hfront : ∀ x ∈ front, p x = false) (ha : p a = true) :
    position? p (front ++ a :: back) = some front.length := by
  induction front with
  | nil => simp [position?, ha]
  | cons x front ih =>
      rw [List.cons_append, position?, hfront x (by simp), ih fun y hy => hfront y (by simp [hy])]
      rfl

theorem keysAfter_append (h : Chronicle (keys ++ rest)) {last : Key}
    (hlast : keys.getLast? = some last) : keysAfter (keys ++ rest) last.cursor = rest := by
  obtain ⟨front, rfl⟩ := List.getLast?_eq_some_iff.mp hlast
  have hdistinct : (Key.ids (front ++ [last])).Nodup :=
    (h.of_isPrefix (List.prefix_append _ _)).distinct
  have hfront : ∀ k ∈ front, (k.id == last.cursor.keyId) = false := by
    intro k hk
    rw [beq_eq_false_iff_ne]
    intro heq
    simp only [Key.ids, List.map_append, List.map_cons, List.map_nil] at hdistinct
    exact (List.nodup_append.mp hdistinct).2.2 k.id (List.mem_map_of_mem hk) last.id (by simp) heq
  have hpos : position? (·.id == last.cursor.keyId) (front ++ [last] ++ rest) =
      some front.length := by
    rw [List.append_assoc]
    exact position?_append hfront (by simp [Key.cursor])
  rw [keysAfter, hpos]
  simp

theorem keysAfter_last (h : Chronicle keys) {last : Key} (hlast : keys.getLast? = some last) :
    keysAfter keys last.cursor = [] := by
  have hnone := keysAfter_append ((List.append_nil keys).symm ▸ h) hlast
  rwa [List.append_nil] at hnone

theorem keysAfter_get? (h : Chronicle log) {i : Nat} {k : Key} (hk : log[i]? = some k) :
    keysAfter log k.cursor = log.drop (i + 1) := by
  have hlast : (log.take (i + 1)).getLast? = some k := by
    rw [List.take_add_one, hk, Option.toList_some, List.getLast?_concat]
  have hsplit := List.take_append_drop (i + 1) log
  have hafter := keysAfter_append (hsplit.symm ▸ h) hlast
  rwa [hsplit] at hafter

theorem fetch_of_failing {s : Server} (hfailing : s.failing = true) (c : Cursor) :
    s.fetch c = (s, .error (.gateway "fetch unavailable")) := by
  rw [fetch, if_pos hfailing]

/-- A fetch that does not fail, while no keys are held back, gives the next scripted batch, or else
the keys after the cursor. -/
theorem fetch_eq {s : Server} (hfailing : s.failing = false) (hdelayed : s.delayed = [])
    (c : Cursor) :
    s.fetch c = ({ s with cursors := c :: s.cursors, scripted := s.scripted.tail },
      .ok (s.scripted.headD (keysAfter s.log c))) := by
  obtain ⟨log, delayed, scripted, _, _, _, _, _, _, _, _, _, _, _, _, _, _⟩ := s
  simp only at hfailing hdelayed
  subst hfailing hdelayed
  cases scripted <;> simp [fetch]

end Keyring.Memory.Server
