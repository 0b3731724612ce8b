namespace Keyring.Assoc

variable {α : Type}

/-- Puts a value under a name: in place of the one that is there, or at the end. -/
def put (name : String) (a : α) : List (String × α) → List (String × α)
  | [] => [(name, a)]
  | (n, b) :: rest => if n = name then (n, a) :: rest else (n, b) :: put name a rest

theorem lookup_put_self (name : String) (a : α) (es : List (String × α)) :
    (put name a es).lookup name = some a := by
  induction es with
  | nil => simp [put]
  | cons e rest ih =>
    obtain ⟨m, b⟩ := e
    by_cases h : m = name
    · simp [put, h]
    · have h' : (name == m) = false := by simp [Ne.symm h]
      simp [put, h, List.lookup_cons, h', ih]

theorem lookup_put_of_ne {n name : String} (hn : n ≠ name) (a : α) (es : List (String × α)) :
    (put name a es).lookup n = es.lookup n := by
  have hn' : (n == name) = false := by simp [hn]
  induction es with
  | nil => simp [put, List.lookup_cons, hn']
  | cons e rest ih =>
    obtain ⟨m, b⟩ := e
    by_cases h : m = name
    · simp [put, h, List.lookup_cons, hn']
    · simp [put, h, List.lookup_cons, ih]

theorem put_put (name : String) (a b : α) (es : List (String × α)) :
    put name b (put name a es) = put name b es := by
  induction es with
  | nil => simp [put]
  | cons e rest ih =>
    obtain ⟨n, c⟩ := e
    by_cases h : n = name
    · simp [put, h]
    · simp [put, h, ih]

theorem lookup_erase_of_ne {n name : String} (hn : n ≠ name) (es : List (String × α)) :
    (es.filter (·.1 ≠ name)).lookup n = es.lookup n := by
  induction es with
  | nil => rfl
  | cons e rest ih =>
    obtain ⟨m, b⟩ := e
    by_cases h : m = name
    · have hm : (n == m) = false := by simp [h, hn]
      rw [List.filter_cons_of_neg (by simp [h]), List.lookup_cons, hm]
      exact ih
    · rw [List.filter_cons_of_pos (by simp [h]), List.lookup_cons, List.lookup_cons, ih]

end Keyring.Assoc
