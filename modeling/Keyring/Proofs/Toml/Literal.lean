import Keyring.Proofs.Text.Decimal
import Keyring.Toml.Literal

namespace Keyring.Toml

variable {cs : List Char}

theorem digit?_digitChar : ∀ d < 10, Hex.digit? (Decimal.digitChar d) = some d := by
  decide

theorem valueOf_snoc (base : Nat) (cs : List Char) (c : Char) :
    valueOf base (cs ++ [c]) = base * valueOf base cs + (Hex.digit? c).getD 0 := by
  simp [valueOf]

theorem valueOf_digits (n : Nat) : valueOf 10 (Decimal.digits n) = n := by
  induction n using Decimal.digit_induction with
  | digit n h =>
      rw [Decimal.digits_of_lt h]
      simp [valueOf, digit?_digitChar n h]
  | more n h ih =>
      rw [Decimal.digits_of_le h, valueOf_snoc, ih, digit?_digitChar (n % 10) (by omega)]
      exact Nat.div_add_mod n 10

theorem withoutUnderscores_of_digits (hne : cs ≠ []) (h : cs.all Decimal.isDigit = true) :
    withoutUnderscores Decimal.isDigit cs = some cs := by
  induction cs with
  | nil => exact absurd rfl hne
  | cons c rest ih =>
      rw [List.all_cons, Bool.and_eq_true_iff] at h
      cases rest with
      | nil => simp [withoutUnderscores, h.1]
      | cons d rest =>
          have hd : d ≠ '_' := Decimal.ne_of_isDigit (Bool.and_eq_true_iff.mp (List.all_cons ▸ h.2)).1 rfl
          simp [withoutUnderscores, hd, h.1, ih (List.cons_ne_nil d rest) h.2]

theorem date?_of_not_mem (h : '-' ∉ cs) : date? cs = none := by
  unfold date?
  split
  · simp at h
  · rfl

theorem time?_of_not_mem (h : ':' ∉ cs) : time? cs = none := by
  unfold time?
  split
  · simp at h
  · rfl

theorem isMoment_of_digits (h : cs.all Decimal.isDigit = true) : isMoment cs = false := by
  have hnot : ∀ d, Decimal.isDigit d = false → d ∉ cs := by
    intro d hd hmem
    exact Decimal.ne_of_isDigit (List.all_eq_true.mp h d hmem) hd rfl
  have hdate := date?_of_not_mem (hnot '-' rfl)
  have htime := time?_of_not_mem (hnot ':' rfl)
  simp [isMoment, hdate, htime]

theorem integerDigits?_digits (n : Nat) :
    integerDigits? (Decimal.digits n) = some (Decimal.digits n) := by
  obtain ⟨c, rest, heq, -, hzero⟩ := Decimal.digits_eq_cons n
  have hne : Decimal.digits n ≠ [] := by
    rw [heq]
    exact List.cons_ne_nil c rest
  have hlead : ¬ ((Decimal.digits n).length ≠ 1 ∧ (Decimal.digits n).head? = some '0') := by
    rintro ⟨hlength, hhead⟩
    rw [heq] at hhead
    obtain rfl : n = 0 := hzero (Option.some.inj hhead)
    rw [Decimal.digits_of_lt (by decide)] at hlength
    exact hlength rfl
  simp [integerDigits?, withoutUnderscores_of_digits hne (Decimal.all_isDigit_digits n), hlead]

theorem decimal?_digits {n : Nat} (h : n ≤ 9223372036854775807) :
    decimal? (Decimal.digits n) = some (.integer n) := by
  obtain ⟨c, rest, heq, hc, -⟩ := Decimal.digits_eq_cons n
  have hsign : splitSign (Decimal.digits n) = (false, Decimal.digits n) := by
    rw [heq]
    unfold splitSign
    split
    · rename_i hminus
      exact absurd (List.cons.inj hminus).1 (Decimal.ne_of_isDigit hc rfl)
    · rename_i hplus
      exact absurd (List.cons.inj hplus).1 (Decimal.ne_of_isDigit hc rfl)
    · rfl
  have hword : word? (n : Int) = some (.integer n) := if_pos ⟨by omega, by omega⟩
  simp [decimal?, hsign, integerDigits?_digits, valueOf_digits, hword]

theorem ofLiteral?_digits {n : Nat} (h : n ≤ 9223372036854775807) :
    ofLiteral? (Decimal.digits n) = some (.integer n) := by
  obtain ⟨c, rest, heq, hc, -⟩ := Decimal.digits_eq_cons n
  have htrue : Decimal.digits n ≠ ['t', 'r', 'u', 'e'] := by
    rw [heq]
    exact fun h => Decimal.ne_of_isDigit hc rfl (List.cons.inj h).1
  have hfalse : Decimal.digits n ≠ ['f', 'a', 'l', 's', 'e'] := by
    rw [heq]
    exact fun h => Decimal.ne_of_isDigit hc rfl (List.cons.inj h).1
  simp [ofLiteral?, htrue, hfalse, isMoment_of_digits (Decimal.all_isDigit_digits n),
    decimal?_digits h]

end Keyring.Toml
