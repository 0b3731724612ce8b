import Mathlib.Data.List.Infix
import Keyring.Text.Position
import Keyring.Proofs.Text.Decimal

namespace Keyring

namespace Decimal

theorem digit?_eq_some_iff (c : Char) (d : Nat) :
    digit? c = some d ↔ isDigit c = true ∧ c.toNat - 48 = d := by
  simp [digit?, isDigit]

theorem toList_render (n : Nat) : (render n).toList = digits n :=
  String.toList_ofList

theorem le_foldl_digits (value : Nat) (cs : List Char) :
    value ≤ cs.foldl (fun v c => 10 * v + (c.toNat - 48)) value := by
  induction cs generalizing value with
  | nil => exact le_refl value
  | cons c rest ih =>
      have := ih (10 * value + (c.toNat - 48))
      rw [List.foldl_cons]
      omega

theorem extend_eq_ok_iff {bound value n : Nat} {cs : List Char} (hvalue : value ≤ bound) :
    extend bound value cs = .ok n ↔ cs.all isDigit = true ∧
      cs.foldl (fun v c => 10 * v + (c.toNat - 48)) value = n ∧ n ≤ bound := by
  induction cs generalizing value with
  | nil =>
      constructor
      · intro h
        obtain rfl := Except.ok.inj h
        exact ⟨rfl, rfl, hvalue⟩
      · rintro ⟨-, rfl, -⟩
        rfl
  | cons c rest ih =>
      rw [extend, List.all_cons, List.foldl_cons, Bool.and_eq_true]
      cases hdigit : digit? c with
      | none =>
          refine ⟨nofun, ?_⟩
          rintro ⟨⟨hc, -⟩, -⟩
          rw [(digit?_eq_some_iff c _).mpr ⟨hc, rfl⟩] at hdigit
          exact nomatch hdigit
      | some d =>
          obtain ⟨hc, rfl⟩ := (digit?_eq_some_iff c d).mp hdigit
          dsimp only
          split
          · rename_i hle
            rw [ih hle, and_iff_right hc]
          · rename_i hgt
            refine ⟨nofun, ?_⟩
            rintro ⟨-, hfold, hbound⟩
            refine absurd ?_ hgt
            exact (le_foldl_digits _ rest).trans (hfold.trans_le hbound)

end Decimal

namespace Text.Position

variable {mark cs before after : List Char} {c : Char}

theorem splitLast?_eq_none_iff (hmark : mark ≠ []) :
    splitLast? mark cs = none ↔ ¬ mark <:+: cs := by
  induction cs with
  | nil => simp [splitLast?, hmark]
  | cons c rest ih =>
      rw [splitLast?, List.infix_cons_iff, not_or, ← ih, ← List.isPrefixOf_iff_prefix]
      cases hrest : splitLast? mark rest with
      | none =>
          cases hmarked : mark.isPrefixOf (c :: rest) <;> simp
      | some parts => simp

/-- A text is split where a mark stands that does not come again, not even overlapping itself. -/
theorem splitLast?_append (hlast : ¬ (c :: mark) <:+: mark ++ after) :
    splitLast? (c :: mark) (before ++ (c :: mark) ++ after) = some (before, after) := by
  induction before with
  | nil =>
      have hnone := (splitLast?_eq_none_iff (List.cons_ne_nil c mark)).mpr hlast
      have hmarked : (c :: mark).isPrefixOf (c :: (mark ++ after)) = true :=
        List.isPrefixOf_iff_prefix.mpr (List.prefix_append (c :: mark) after)
      rw [List.nil_append, List.cons_append, splitLast?, hnone]
      simp [hmarked]
  | cons b rest ih =>
      rw [List.cons_append, List.cons_append, splitLast?, ih]

/-- Decimal digits of a number of 64 bits. Zeros may stand in front. -/
structure Numeral (cs : List Char) (n : Nat) : Prop where
  nonempty : cs ≠ []
  digits : cs.all Decimal.isDigit = true
  value : Json.digitsValue cs = n
  bounded : n ≤ Decimal.max64

theorem number?_eq_some_iff (n : Nat) : number? cs = some n ↔ Numeral cs n := by
  have hextend : Decimal.extend Decimal.max64 0 cs = .ok n ↔ _ :=
    Decimal.extend_eq_ok_iff (Nat.zero_le Decimal.max64)
  by_cases hempty : cs = []
  · subst hempty
    exact ⟨nofun, fun h => absurd rfl h.nonempty⟩
  · have htoOption : number? cs = some n ↔ Decimal.extend Decimal.max64 0 cs = .ok n := by
      rw [number?, if_neg (by simpa using hempty)]
      cases Decimal.extend Decimal.max64 0 cs <;> simp [Except.toOption]
    rw [htoOption, hextend]
    exact ⟨fun ⟨hdigits, hvalue, hbounded⟩ => ⟨hempty, hdigits, hvalue, hbounded⟩,
      fun h => ⟨h.digits, h.value, h.bounded⟩⟩

/-- Whether a text ends in a position with a line, and what stands before the position. -/
def EndsAt (text before : String) (line : Nat) : Prop :=
  ∃ lineDigits columnDigits : List Char, ∃ column,
    Numeral lineDigits line ∧ Numeral columnDigits column ∧
      text.toList = before.toList ++ lineMark ++ (lineDigits ++ (columnMark ++ columnDigits))

theorem span_digits {digits rest : List Char} (hdigits : digits.all Decimal.isDigit = true)
    (hrest : ∀ d ∈ rest.head?, Decimal.isDigit d = false) :
    (digits ++ rest).takeWhile Decimal.isDigit = digits ∧
      (digits ++ rest).dropWhile Decimal.isDigit = rest := by
  have hall := List.all_eq_true.mp hdigits
  cases rest with
  | nil =>
      rw [List.append_nil]
      exact ⟨List.takeWhile_eq_self_iff.mpr hall, List.dropWhile_eq_nil_iff.mpr hall⟩
  | cons d rest =>
      have hd := hrest d rfl
      rw [List.takeWhile_append_of_pos hall, List.dropWhile_append_of_pos hall]
      simp [hd]

theorem lineMark_not_within {lineDigits columnDigits : List Char}
    (hline : lineDigits.all Decimal.isDigit = true)
    (hcolumn : columnDigits.all Decimal.isDigit = true) :
    ¬ lineMark <:+: "at line ".toList ++ (lineDigits ++ (columnMark ++ columnDigits)) := by
  -- The letter at the front is the only one of its kind, and in the mark it is not at the front.
  have honly : 'a' ∉ "t line ".toList ++ (lineDigits ++ (columnMark ++ columnDigits)) := by
    have hdigit : ∀ {digits : List Char}, digits.all Decimal.isDigit = true → 'a' ∉ digits :=
      fun hdigits hmem => Decimal.ne_of_isDigit (List.all_eq_true.mp hdigits _ hmem)
        (by decide : Decimal.isDigit 'a' = false) rfl
    simp only [List.mem_append, not_or]
    exact ⟨by decide, hdigit hline, by decide, hdigit hcolumn⟩
  intro hinside
  rcases List.infix_cons_iff.mp hinside with hmarked | hlater
  · exact absurd (List.cons_prefix_cons.mp hmarked).1 (by decide)
  · exact honly (hlater.subset (by decide))

theorem split?_eq_some_iff (text before : String) (line : Nat) :
    split? text = some (before, line) ↔ EndsAt text before line := by
  constructor
  · intro h
    obtain ⟨⟨front, after⟩, hsplit, h⟩ := Option.bind_eq_some_iff.mp h
    dsimp only at h
    split at h
    · rename_i hcolumn
      obtain ⟨n, hline, h⟩ := Option.bind_eq_some_iff.mp h
      obtain ⟨column, hnumber, h⟩ := Option.bind_eq_some_iff.mp h
      obtain ⟨rfl, rfl⟩ := Prod.mk.inj (Option.some.inj h)
      obtain ⟨columnDigits, hdigits⟩ := List.isPrefixOf_iff_prefix.mp hcolumn
      rw [← hdigits, List.drop_left] at hnumber
      refine ⟨_, columnDigits, column, (number?_eq_some_iff _).mp hline,
        (number?_eq_some_iff column).mp hnumber, ?_⟩
      rw [hdigits, List.takeWhile_append_dropWhile, String.toList_ofList]
      exact eq_append_of_splitLast? hsplit
    · exact nomatch h
  · rintro ⟨lineDigits, columnDigits, column, hline, hcolumn, htext⟩
    have hsplit : splitLast? lineMark text.toList =
        some (before.toList, lineDigits ++ (columnMark ++ columnDigits)) := by
      rw [htext]
      exact splitLast?_append (lineMark_not_within hline.digits hcolumn.digits)
    have hnext : ∀ d ∈ (columnMark ++ columnDigits).head?, Decimal.isDigit d = false := by
      rintro d ⟨⟩
      rfl
    obtain ⟨htake, hdrop⟩ := span_digits hline.digits hnext
    have hmarked : columnMark.isPrefixOf (columnMark ++ columnDigits) = true :=
      List.isPrefixOf_iff_prefix.mpr (List.prefix_append _ _)
    rw [split?, hsplit]
    simp only [Option.bind_eq_bind, Option.bind_some, htake, hdrop, hmarked, if_true,
      List.drop_left, (number?_eq_some_iff _).mpr hline, (number?_eq_some_iff _).mpr hcolumn,
      String.ofList_toList, Option.pure_def]

theorem split?_eq_none_iff (text : String) :
    split? text = none ↔ ∀ before line, ¬ EndsAt text before line := by
  rw [Option.eq_none_iff_forall_ne_some, Prod.forall]
  exact forall₂_congr fun before line => not_congr (split?_eq_some_iff text before line)

theorem append_digits_inj {front front' digits digits' : List Char}
    (hdigits : digits.all Decimal.isDigit = true) (hdigits' : digits'.all Decimal.isDigit = true)
    (h : front ++ ' ' :: digits = front' ++ ' ' :: digits') : front = front' := by
  have hdrop : ∀ {front digits : List Char}, digits.all Decimal.isDigit = true →
      (front ++ ' ' :: digits).reverse.dropWhile Decimal.isDigit = ' ' :: front.reverse := by
    intro front digits hdigits
    have hall : ∀ c ∈ digits.reverse, Decimal.isDigit c = true := fun c hc =>
      List.all_eq_true.mp hdigits c (List.mem_reverse.mp hc)
    rw [List.reverse_append, List.reverse_cons, List.append_assoc,
      List.dropWhile_append_of_pos hall]
    rfl
  have hreverse := congrArg (fun cs => cs.reverse.dropWhile Decimal.isDigit) h
  rw [hdrop hdigits, hdrop hdigits'] at hreverse
  exact List.reverse_injective (List.cons.inj hreverse).2

/-- A text whose number at the end is not announced by a column mark ends in no position. -/
theorem not_endsAt {text : String} {front digits : List Char}
    (htext : text.toList = front ++ ' ' :: digits) (hdigits : digits.all Decimal.isDigit = true)
    (hfront : front.getLast? ≠ some 'n') (before : String) (line : Nat) :
    ¬ EndsAt text before line := by
  rintro ⟨lineDigits, columnDigits, column, hline, hcolumn, htext'⟩
  have hmark : columnMark = " column".toList ++ [' '] := rfl
  rw [htext, hmark] at htext'
  have hsame : front = before.toList ++ lineMark ++ (lineDigits ++ " column".toList) :=
    append_digits_inj hdigits hcolumn.digits (by simpa using htext')
  refine hfront ?_
  rw [hsame, ← List.append_assoc, List.getLast?_append]
  rfl

end Text.Position

end Keyring
