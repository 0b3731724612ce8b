import Mathlib.Data.List.TakeWhile
import Keyring.Json.Token

namespace Keyring

namespace Decimal

theorem isDigit_digitChar : ∀ d < 10, isDigit (digitChar d) = true := by
  decide

theorem eq_zero_of_digitChar : ∀ d < 10, digitChar d = '0' → d = 0 := by
  decide

theorem digit?_digitChar : ∀ d < 10, digit? (digitChar d) = some d := by
  decide

theorem ne_of_isDigit {c d : Char} (hc : isDigit c = true) (hd : isDigit d = false) : c ≠ d := by
  rintro rfl
  exact Bool.noConfusion (hc.symm.trans hd)

theorem digits_of_lt {n : Nat} (h : n < 10) : digits n = [digitChar n] := by
  rw [digits, if_pos h]

theorem digits_of_le {n : Nat} (h : 10 ≤ n) :
    digits n = digits (n / 10) ++ [digitChar (n % 10)] := by
  rw [digits, if_neg (by omega)]

/-- To prove something of all numbers, pass from a number to the one with a digit more. -/
theorem digit_induction {P : Nat → Prop} (digit : ∀ n < 10, P n)
    (more : ∀ n, 10 ≤ n → P (n / 10) → P n) (n : Nat) : P n := by
  induction n using Nat.strongRecOn with
  | ind n ih =>
      by_cases h : n < 10
      · exact digit n h
      · exact more n (by omega) (ih (n / 10) (by omega))

theorem all_isDigit_digits (n : Nat) : (digits n).all isDigit = true := by
  induction n using digit_induction with
  | digit n h => simp [digits_of_lt h, isDigit_digitChar n h]
  | more n h ih => simp [digits_of_le h, ih, isDigit_digitChar (n % 10) (by omega)]

theorem digits_eq_cons (n : Nat) :
    ∃ c rest, digits n = c :: rest ∧ isDigit c = true ∧ (c = '0' → n = 0) := by
  induction n using digit_induction with
  | digit n h =>
      exact ⟨_, _, digits_of_lt h, isDigit_digitChar n h, eq_zero_of_digitChar n h⟩
  | more n h ih =>
      obtain ⟨c, rest, heq, hc, hzero⟩ := ih
      refine ⟨c, rest ++ [digitChar (n % 10)], ?_, hc, fun h0 => ?_⟩
      · rw [digits_of_le h, heq]
        rfl
      · have := hzero h0
        omega

theorem length_digits_le {m n : Nat} (h : m ≤ n) : (digits m).length ≤ (digits n).length := by
  induction n using digit_induction generalizing m with
  | digit n hn =>
      rw [digits_of_lt hn, digits_of_lt (by omega)]
      exact le_refl _
  | more n hn ih =>
      rw [digits_of_le hn, List.length_append]
      by_cases hm : m < 10
      · rw [digits_of_lt hm]
        exact Nat.le_add_left _ _
      · rw [digits_of_le (by omega), List.length_append]
        exact Nat.add_le_add_right (ih (by omega)) _

theorem length_render_le {m n : Nat} (h : m ≤ n) : (render m).length ≤ (render n).length := by
  simpa [render] using length_digits_le h

end Decimal

namespace Json

open Decimal

theorem digitsValue_digits (n : Nat) : digitsValue (digits n) = n :=
  foldl_digits n

theorem isMagnitude_digits (n : Nat) : isMagnitude (digits n) = true := by
  have hinteger : afterInteger (digits n) = some [] := by
    obtain ⟨c, rest, heq, hc, hzero⟩ := digits_eq_cons n
    by_cases h0 : c = '0'
    · rw [hzero h0, digits_of_lt (by omega)]
      rfl
    · have hall := all_isDigit_digits n
      rw [heq] at hall ⊢
      have hrest : rest.all isDigit = true := (Bool.and_eq_true_iff.mp hall).2
      unfold afterInteger
      split
      · rename_i heq'
        exact absurd (List.cons.inj heq').1 h0
      · have hdrop := List.dropWhile_eq_nil_iff.mpr (List.all_eq_true.mp hrest)
        simp only [digitRun, hc, if_true, hdrop]
  rw [isMagnitude, hinteger]
  rfl

theorem numberToken_digits (n : Nat) : numberToken (digits n) = .scalar (.natural n) := by
  have hmagnitude := isMagnitude_digits n
  have hall := all_isDigit_digits n
  have hvalue := digitsValue_digits n
  unfold numberToken
  split
  · -- The digits do not begin with a sign.
    rename_i rest heq
    rw [heq] at hall
    exact absurd (Bool.and_eq_true_iff.mp hall).1 (by decide)
  · rw [if_pos hmagnitude, if_pos hall, hvalue]

end Json

end Keyring
