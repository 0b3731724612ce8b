import Keyring.Json.Printer
import Keyring.Proofs.Text.Decimal

namespace Keyring.Json

mutual

/-- Whether a value is made of null, truth values, natural numbers and texts only. -/
def plain : Json → Bool
  | .null | .bool _ | .natural _ | .text _ => true
  | .numeral _ | .garbled | .torn => false
  | .array items => plainItems items
  | .object members => plainMembers members

def plainItems : List Json → Bool
  | [] => true
  | j :: rest => plain j && plainItems rest

def plainMembers : List (Option String × Json) → Bool
  | [] => true
  | (name, j) :: rest => name.isSome && plain j && plainMembers rest

end

def nameToken (name : Option String) : Token :=
  .scalar (.text (name.getD ""))

mutual

def tokensOf : Json → List Token
  | .array items => .mark '[' :: itemTokens items ++ [.mark ']']
  | .object members => .mark '\x7b' :: memberTokens members ++ [.mark '\x7d']
  | j => [.scalar j]

def itemTokens : List Json → List Token
  | [] => []
  | [j] => tokensOf j
  | j :: rest => tokensOf j ++ .mark ',' :: itemTokens rest

def memberTokens : List (Option String × Json) → List Token
  | [] => []
  | [(name, j)] => nameToken name :: .mark ':' :: tokensOf j
  | (name, j) :: rest => nameToken name :: .mark ':' :: tokensOf j ++ .mark ',' :: memberTokens rest

end

def marks : List Char :=
  ['[', ']', '\x7b', '\x7d', ':', ',']

theorem enter_mark {c : Char} (h : c ∈ marks) :
    enter c = ([.mark c], .between) ∧ isLetter c = false ∧ isNumeric c = false := by
  simp only [marks, List.mem_cons, List.not_mem_nil, or_false] at h
  rcases h with rfl | rfl | rfl | rfl | rfl | rfl
  all_goals exact ⟨rfl, rfl, rfl⟩

namespace Scan

abbrev pushAll (s : Scan) (cs : List Char) : Scan :=
  cs.foldl push s

/-- Whether a scan has come past some tokens, of which the last may still lack its end. A mark ends
every token, as the end of the text does. -/
structure Past (s : Scan) (found : List Token) : Prop where
  push_mark : ∀ c ∈ marks, s.push c = ⟨.mark c :: found, .between⟩
  close : s.close = found.reverse

namespace Past

variable {found : List Token}

theorem between (found : List Token) : Past ⟨found, .between⟩ found where
  push_mark c hc := by
    simp [push, Mode.step, (enter_mark hc).1]
  close := by
    simp [Scan.close, Mode.finish]

theorem word (seen : List Char) :
    Past ⟨found, .word seen⟩ (wordToken seen.reverse :: found) where
  push_mark c hc := by
    obtain ⟨henter, hletter, -⟩ := enter_mark hc
    simp [push, Mode.step, henter, hletter]
  close := by
    simp [Scan.close, Mode.finish]

theorem number (seen : List Char) :
    Past ⟨found, .number seen⟩ (numberToken seen.reverse :: found) where
  push_mark c hc := by
    obtain ⟨henter, -, hnumeric⟩ := enter_mark hc
    simp [push, Mode.step, henter, hnumeric]
  close := by
    simp [Scan.close, Mode.finish]

theorem pushAll_mark {s : Scan} {cs : List Char} (h : Past (pushAll s cs) found) {c : Char}
    (hc : c ∈ marks) (more : List Char) :
    pushAll s (cs ++ c :: more) = pushAll ⟨.mark c :: found, .between⟩ more := by
  rw [pushAll, List.foldl_append, List.foldl_cons, h.push_mark c hc]

end Past

end Scan

open Scan

variable {found : List Token}

section Strings

theorem digit?_lower : ∀ d < 16, Hex.digit? (Hex.lower d) = some d := by
  decide

theorem pushAll_unit (seen : List Char) {n : Nat} (hn : n < 0x20) :
    pushAll ⟨found, .inside { chars := seen }⟩
        ['\\', 'u', '0', '0', Hex.lower (n / 16), Hex.lower (n % 16)] =
      ⟨found, .inside { chars := Char.ofNat n :: seen }⟩ := by
  have hhigh := digit?_lower (n / 16) (by omega)
  have hlow := digit?_lower (n % 16) (by omega)
  have hzero : Hex.digit? '0' = some 0 := by decide
  have hunit : Quoted.pushUnit { chars := seen } n = { chars := Char.ofNat n :: seen } := by
    have hsurrogate : (0xD800 ≤ n && n < 0xDC00) = false := by simp; omega
    have hlow : (0xDC00 ≤ n && n < 0xE000) = false := by simp; omega
    simp [Quoted.pushUnit, hsurrogate, hlow]
  simp [push, Mode.step, hzero, hhigh, hlow, Nat.div_add_mod, hunit]

theorem pushAll_escapeChar (seen : List Char) (c : Char) :
    pushAll ⟨found, .inside { chars := seen }⟩ (escapeChar c) =
      ⟨found, .inside { chars := c :: seen }⟩ := by
  unfold escapeChar
  split
  · rfl
  · rfl
  · rfl
  · rfl
  · rfl
  · rfl
  · rfl
  · rename_i hquote hbackslash _ _ _ _ _
    have hquote : c ≠ '"' := hquote
    have hbackslash : c ≠ '\\' := hbackslash
    split
    · rename_i hcontrol
      rw [pushAll_unit seen hcontrol, Char.ofNat_toNat]
    · rename_i hcontrol
      simp [push, Mode.step, Quoted.push, hcontrol, hquote, hbackslash]

theorem pushAll_escaped (found : List Token) (seen cs : List Char) :
    pushAll ⟨found, .inside { chars := seen }⟩ (cs.flatMap escapeChar) =
      ⟨found, .inside { chars := cs.reverse ++ seen }⟩ := by
  induction cs generalizing seen with
  | nil => rfl
  | cons c rest ih =>
      rw [List.flatMap_cons, pushAll, List.foldl_append]
      show pushAll (pushAll _ (escapeChar c)) _ = _
      rw [pushAll_escapeChar, ih]
      simp

theorem pushAll_quoted (t : String) :
    pushAll ⟨found, .between⟩ (quoted t) = ⟨.scalar (.text t) :: found, .between⟩ := by
  have hopen : push ⟨found, .between⟩ '"' = ⟨found, .inside {}⟩ := rfl
  have hclose : push ⟨found, .inside { chars := t.toList.reverse }⟩ '"' =
      ⟨.scalar (.text t) :: found, .between⟩ := by
    simp [push, Mode.step, Quoted.close]
  have hescaped := pushAll_escaped found [] t.toList
  rw [List.append_nil] at hescaped
  rw [quoted, pushAll, List.cons_append, List.foldl_cons, hopen, List.foldl_append]
  show push (pushAll _ _) '"' = _
  rw [hescaped, hclose]

end Strings

theorem enter_digit {c : Char} (hc : Decimal.isDigit c = true) : enter c = ([], .number [c]) := by
  have hne : ∀ d, Decimal.isDigit d = false → c ≠ d := by
    rintro d hd rfl
    rw [hc] at hd
    exact Bool.noConfusion hd
  have hletter : isLetter c = false := by
    simp only [Decimal.isDigit, Bool.and_eq_true, decide_eq_true_eq] at hc
    have hlt : ¬ 'a' ≤ c := fun h => absurd (Char.le_trans h hc.2) (by decide)
    simp [isLetter, hlt]
  simp [enter, isNumeric, hc, hletter, hne ' ' rfl, hne '\t' rfl, hne '\n' rfl, hne '\r' rfl,
    hne '[' rfl, hne ']' rfl, hne '\x7b' rfl, hne '\x7d' rfl, hne ':' rfl, hne ',' rfl, hne '"' rfl]

theorem past_digits (n : Nat) :
    Past (pushAll ⟨found, .between⟩ (Decimal.digits n)) (.scalar (.natural n) :: found) := by
  have hnumber : ∀ (cs seen : List Char), cs.all Decimal.isDigit = true →
      pushAll ⟨found, .number seen⟩ cs = ⟨found, .number (cs.reverse ++ seen)⟩ := by
    intro cs
    induction cs with
    | nil => exact fun seen _ => rfl
    | cons c rest ih =>
        intro seen hall
        rw [List.all_cons, Bool.and_eq_true_iff] at hall
        have hstep : push ⟨found, .number seen⟩ c = ⟨found, .number (c :: seen)⟩ := by
          simp [push, Mode.step, isNumeric, hall.1]
        rw [pushAll, List.foldl_cons, hstep]
        show pushAll _ rest = _
        rw [ih _ hall.2]
        simp
  obtain ⟨c, rest, heq, hc, -⟩ := Decimal.digits_eq_cons n
  have hall := Decimal.all_isDigit_digits n
  have htoken := numberToken_digits n
  rw [heq] at hall htoken ⊢
  have hfirst : push ⟨found, .between⟩ c = ⟨found, .number [c]⟩ := by
    simp [push, Mode.step, enter_digit hc]
  rw [pushAll, List.foldl_cons, hfirst]
  show Past (pushAll _ rest) _
  rw [hnumber rest [c] (Bool.and_eq_true_iff.mp hall).2]
  have hpast : Past ⟨found, .number (rest.reverse ++ [c])⟩ _ := Past.number (rest.reverse ++ [c])
  rwa [List.reverse_append, List.reverse_reverse, List.reverse_singleton, List.singleton_append,
    htoken] at hpast

theorem past_member {name : Option String} (hname : name.isSome = true) {j : Json}
    (hj : ∀ found, Past (pushAll ⟨found, .between⟩ (chars j)) ((tokensOf j).reverse ++ found))
    (found : List Token) :
    Past (pushAll ⟨found, .between⟩ (memberName name ++ ':' :: chars j))
      ((nameToken name :: .mark ':' :: tokensOf j).reverse ++ found) := by
  obtain ⟨t, rfl⟩ := Option.isSome_iff_exists.mp hname
  have hquoted := Past.between (.scalar (.text t) :: found)
  rw [← pushAll_quoted] at hquoted
  rw [memberName, hquoted.pushAll_mark (by decide)]
  simpa [nameToken] using hj _

mutual

theorem past_chars : ∀ {j : Json}, j.plain = true → ∀ found,
    Past (pushAll ⟨found, .between⟩ (chars j)) ((tokensOf j).reverse ++ found)
  | .null, _, found => Past.word ['l', 'l', 'u', 'n']
  | .bool true, _, found => Past.word ['e', 'u', 'r', 't']
  | .bool false, _, found => Past.word ['e', 's', 'l', 'a', 'f']
  | .natural n, _, found => past_digits n
  | .text t, _, found => by
      rw [chars, pushAll_quoted]
      exact Past.between _
  | .array items, h, found => by
      have hitems := past_itemChars h (.mark '[' :: found)
      have hend := hitems.pushAll_mark (c := ']') (by decide) []
      rw [chars, List.cons_append]
      show Past (pushAll ⟨.mark '[' :: found, .between⟩ (itemChars items ++ [']'])) _
      rw [hend]
      simpa [tokensOf] using Past.between _
  | .object members, h, found => by
      have hmembers := past_memberChars h (.mark '\x7b' :: found)
      have hend := hmembers.pushAll_mark (c := '\x7d') (by decide) []
      rw [chars, List.cons_append]
      show Past (pushAll ⟨.mark '\x7b' :: found, .between⟩ (memberChars members ++ ['\x7d'])) _
      rw [hend]
      simpa [tokensOf] using Past.between _

theorem past_itemChars : ∀ {items : List Json}, plainItems items = true → ∀ found,
    Past (pushAll ⟨found, .between⟩ (itemChars items)) ((itemTokens items).reverse ++ found)
  | [], _, found => Past.between found
  | [j], h, found => past_chars (Bool.and_eq_true_iff.mp h).1 found
  | j :: k :: rest, h, found => by
      have hj := past_chars (Bool.and_eq_true_iff.mp h).1 found
      have hrest := past_itemChars (Bool.and_eq_true_iff.mp h).2
        (.mark ',' :: ((tokensOf j).reverse ++ found))
      rw [itemChars, hj.pushAll_mark (by decide)]
      · simpa [itemTokens] using hrest
      · simp

theorem past_memberChars : ∀ {members : List (Option String × Json)},
    plainMembers members = true → ∀ found,
    Past (pushAll ⟨found, .between⟩ (memberChars members)) ((memberTokens members).reverse ++ found)
  | [], _, found => Past.between found
  | [(name, j)], h, found => by
      have hfirst := Bool.and_eq_true_iff.mp (Bool.and_eq_true_iff.mp h).1
      exact past_member hfirst.1 (past_chars hfirst.2) found
  | (name, j) :: m :: rest, h, found => by
      have hfirst := Bool.and_eq_true_iff.mp (Bool.and_eq_true_iff.mp h).1
      have hmember := past_member hfirst.1 (past_chars hfirst.2) found
      have hrest := past_memberChars (Bool.and_eq_true_iff.mp h).2
        (.mark ',' :: ((nameToken name :: .mark ':' :: tokensOf j).reverse ++ found))
      have hcomma := hmember.pushAll_mark (c := ',') (by decide) (memberChars (m :: rest))
      rw [memberChars]
      · simp only [List.append_assoc, List.cons_append] at hcomma ⊢
        rw [hcomma]
        simpa [memberTokens] using hrest
      · simp

end

theorem tokens_render {j : Json} (h : j.plain = true) : tokens (render j) = tokensOf j := by
  have hclose := (past_chars h []).close
  simpa [tokens, render] using hclose

end Keyring.Json
