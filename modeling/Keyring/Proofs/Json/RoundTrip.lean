import Keyring.Json.Fields
import Keyring.Proofs.Json.Scan

namespace Keyring.Json

theorem readFrom_member {name : Option String} (hname : name.isSome = true) {j : Json}
    (hj : ∀ orEnd frames more,
      readFrom (.value orEnd) frames (tokensOf j ++ more) = readFrom (.after j) frames more)
    (orEnd : Bool) (done : List (Option String × Json)) (frames : List Frame) (more : List Token) :
    readFrom (.name done orEnd) frames (nameToken name :: .mark ':' :: tokensOf j ++ more) =
      readFrom (.after j) (.members done name :: frames) more := by
  obtain ⟨t, rfl⟩ := Option.isSome_iff_exists.mp hname
  exact hj false (.members done (some t) :: frames) more

mutual

/-- The tokens of a value lead from a place for a value to the place after it. -/
theorem readFrom_tokensOf : ∀ {j : Json}, j.plain = true → ∀ orEnd frames more,
    readFrom (.value orEnd) frames (tokensOf j ++ more) = readFrom (.after j) frames more
  | .null, _, _, _, _ => rfl
  | .bool _, _, _, _, _ => rfl
  | .natural _, _, _, _, _ => rfl
  | .text _, _, _, _, _ => rfl
  | .array [], _, _, _, _ => rfl
  | .array (j :: rest), h, orEnd, frames, more => by
      have hitems := readFrom_itemTokens h (List.cons_ne_nil _ _) true [] frames more
      simpa [tokensOf, readFrom, Place.next] using hitems
  | .object [], _, _, _, _ => rfl
  | .object (m :: rest), h, orEnd, frames, more => by
      have hmembers := readFrom_memberTokens h (List.cons_ne_nil _ _) true [] frames more
      simpa [tokensOf, readFrom, Place.next] using hmembers

theorem readFrom_itemTokens : ∀ {items : List Json}, plainItems items = true → items ≠ [] →
    ∀ orEnd done frames more,
    readFrom (.value orEnd) (.items done :: frames) (itemTokens items ++ .mark ']' :: more) =
      readFrom (.after (.array (done.reverse ++ items))) frames more
  | [], _, hne, _, _, _, _ => absurd rfl hne
  | [j], h, _, orEnd, done, frames, more => by
      have hj := readFrom_tokensOf (Bool.and_eq_true_iff.mp h).1 orEnd (.items done :: frames)
        (.mark ']' :: more)
      rw [itemTokens, hj]
      simp [readFrom, Place.next]
  | j :: k :: rest, h, _, orEnd, done, frames, more => by
      have hj := readFrom_tokensOf (Bool.and_eq_true_iff.mp h).1 orEnd (.items done :: frames)
        (.mark ',' :: itemTokens (k :: rest) ++ .mark ']' :: more)
      have hrest := readFrom_itemTokens (Bool.and_eq_true_iff.mp h).2 (List.cons_ne_nil _ _) false
        (j :: done) frames more
      rw [itemTokens, List.append_assoc, hj]
      · simpa [readFrom, Place.next] using hrest
      · simp

theorem readFrom_memberTokens : ∀ {members : List (Option String × Json)},
    plainMembers members = true → members ≠ [] → ∀ orEnd done frames more,
    readFrom (.name done orEnd) frames (memberTokens members ++ .mark '\x7d' :: more) =
      readFrom (.after (.object (done.reverse ++ members))) frames more
  | [], _, hne, _, _, _, _ => absurd rfl hne
  | [(name, j)], h, _, orEnd, done, frames, more => by
      have hfirst := Bool.and_eq_true_iff.mp (Bool.and_eq_true_iff.mp h).1
      have hmember := readFrom_member hfirst.1 (readFrom_tokensOf hfirst.2) orEnd done frames
        (.mark '\x7d' :: more)
      rw [memberTokens, hmember]
      simp [readFrom, Place.next]
  | (name, j) :: m :: rest, h, _, orEnd, done, frames, more => by
      have hfirst := Bool.and_eq_true_iff.mp (Bool.and_eq_true_iff.mp h).1
      have hmember := readFrom_member hfirst.1 (readFrom_tokensOf hfirst.2) orEnd done frames
        (.mark ',' :: memberTokens (m :: rest) ++ .mark '\x7d' :: more)
      have hrest := readFrom_memberTokens (Bool.and_eq_true_iff.mp h).2 (List.cons_ne_nil _ _) false
        ((name, j) :: done) frames more
      rw [memberTokens, List.append_assoc, hmember]
      · simpa [readFrom, Place.next] using hrest
      · simp

end

/-- The text of a plain value is read as that value. -/
theorem read_render {j : Json} (h : j.plain = true) : read (render j) = ⟨j, true⟩ := by
  have hread := readFrom_tokensOf h false [] []
  rw [List.append_nil] at hread
  rw [read, tokens_render h, hread]
  rfl

theorem decode_eq_ok_iff {α : Type} {reader : Json → Except ReadError α} {text : String}
    {a : α} : decode reader text = .ok a ↔
      reader (read text).value = .ok a ∧ (read text).complete = true := by
  rw [decode]
  cases reader (read text).value with
  | error e => simp
  | ok b => cases (read text).complete <;> simp

theorem decode_render {α : Type} {reader : Json → Except ReadError α} {j : Json} {a : α}
    (h : j.plain = true) (hreader : reader j = .ok a) : decode reader (render j) = .ok a := by
  rw [decode_eq_ok_iff, read_render h]
  exact ⟨hreader, rfl⟩

end Keyring.Json
