import Keyring.Proofs.Text.Decimal
import Keyring.Proofs.Toml.Quoted
import Keyring.Toml.Reader

namespace Keyring.Toml

open Machine Scan

abbrev Section := String × List (String × Plain)

/-- Whether a name needs no quotes as a key. -/
def isBareKey (name : String) : Bool :=
  !name.toList.isEmpty && name.toList.all isWordChar && Parse.isBare name.toList

/-- Sections with names that need no quotes and can be told apart, and so the keys of each. -/
structure WellNamed (sections : List Section) : Prop where
  bare : ∀ s ∈ sections, isBareKey s.1 = true
  apart : (sections.map Prod.fst).Nodup
  bareKeys : ∀ s ∈ sections, ∀ e ∈ s.2, isBareKey e.1 = true
  apartKeys : ∀ s ∈ sections, (s.2.map Prod.fst).Nodup

def Plain.token : Plain → Token
  | .text s => (styleFor s.toList).token s.toList
  | .natural n => .word (Decimal.digits n)
  | .bool true => .word ['t', 'r', 'u', 'e']
  | .bool false => .word ['f', 'a', 'l', 's', 'e']

def pairTokens (entry : String × Plain) : List Token :=
  [.word entry.1.toList, .gap true, .mark '=', .gap true, entry.2.token, .newline]

def headerTokens (name : String) : List Token :=
  [.mark '[', .word name.toList, .mark ']', .newline]

def sectionTokens (s : Section) : List Token :=
  headerTokens s.1 ++ s.2.flatMap pairTokens

def documentTokens (sections : List Section) : List Token :=
  List.intercalate [.newline] (sections.map sectionTokens)

section Written

variable {s : Section} {sections : List Section} {part : List Char} {text : String}

theorem mapM_cons_eq_some_iff {α β : Type} {f : α → Option β} {a : α} {as : List α} {r : List β} :
    (a :: as).mapM f = some r ↔ ∃ b bs, f a = some b ∧ as.mapM f = some bs ∧ r = b :: bs := by
  simp only [List.mapM_cons, Option.bind_eq_bind, Option.bind_eq_some_iff, Option.pure_def,
    Option.some.injEq]
  constructor
  · rintro ⟨b, hb, bs, hbs, rfl⟩
    exact ⟨b, bs, hb, hbs, rfl⟩
  · rintro ⟨b, bs, hb, hbs, rfl⟩
    exact ⟨b, hb, bs, hbs, rfl⟩

theorem section?_eq_some_iff : section? s = some part ↔
    ∃ lines, s.2.mapM pairLine? = some lines ∧
      '[' :: s.1.toList ++ [']', '\n'] ++ lines.flatten = part := by
  simp only [section?, Option.bind_eq_bind, Option.bind_eq_some_iff, Option.pure_def,
    Option.some.injEq]

theorem document?_eq_some_iff : document? sections = some text ↔
    ∃ parts, sections.mapM section? = some parts ∧
      String.ofList (List.intercalate ['\n'] parts) = text := by
  simp only [document?, Option.bind_eq_bind, Option.bind_eq_some_iff, Option.pure_def,
    Option.some.injEq]

end Written

variable {found : List Token} {c : Char} {w more : List Char}

theorem isBareKey_iff {name : String} :
    isBareKey name = true ↔
      name.toList ≠ [] ∧ name.toList.all isWordChar = true ∧ Parse.isBare name.toList = true := by
  simp [isBareKey, and_assoc]

theorem isWordChar_of_isDigit (h : Decimal.isDigit c = true) : isWordChar c = true := by
  have hdigit : ('0' ≤ c && c ≤ '9') = true := h
  simp [isWordChar, hdigit]

theorem enter_wordChar (h : isWordChar c = true) : enter c = some ([], .word [c]) := by
  have hne : ∀ d, isWordChar d = false → c ≠ d := by
    rintro d hd rfl
    rw [h] at hd
    exact Bool.noConfusion hd
  simp [enter, h, hne ' ' rfl, hne '\t' rfl, hne '\n' rfl, hne '\r' rfl, hne '#' rfl, hne '"' rfl,
    hne '\'' rfl, hne '.' rfl, hne '=' rfl, hne ',' rfl, hne '[' rfl, hne ']' rfl, hne '\x7b' rfl,
    hne '\x7d' rfl]

theorem pushAll_wordChars (seen : List Char) (hw : w.all isWordChar = true) :
    pushAll push ⟨found, .word seen⟩ w = some ⟨found, .word (w.reverse ++ seen)⟩ := by
  induction w generalizing seen with
  | nil => rfl
  | cons c rest ih =>
      rw [List.all_cons, Bool.and_eq_true_iff] at hw
      have hpush : push ⟨found, .word seen⟩ c = some ⟨found, .word (c :: seen)⟩ := by
        simp [push, Mode.step, hw.1]
      rw [pushAll_cons hpush, ih (c :: seen) hw.2]
      simp

theorem pushAll_word (hne : w ≠ []) (hw : w.all isWordChar = true) (hc : isWordChar c = false) :
    pushAll push ⟨found, .between⟩ (w ++ c :: more) =
      pushAll push ⟨.word w :: found, .between⟩ (c :: more) := by
  cases w with
  | nil => exact absurd rfl hne
  | cons d rest =>
      have hd : isWordChar d = true := (Bool.and_eq_true_iff.mp (List.all_cons ▸ hw)).1
      have hpush : push ⟨found, .between⟩ d = some ⟨found, .word [d]⟩ := by
        simp [push, Mode.step, enter_wordChar hd]
      have hrest : rest.all isWordChar = true := (Bool.and_eq_true_iff.mp (List.all_cons ▸ hw)).2
      -- Only the character behind a word completes it.
      rw [List.cons_append, pushAll_cons hpush, pushAll_append (pushAll_wordChars [d] hrest)]
      apply pushAll_congr
      apply push_complete
      simp [Mode.step, hc]

theorem pushAll_gap (hspace : c ≠ ' ') (htab : c ≠ '\t') :
    pushAll push ⟨found, .between⟩ (' ' :: c :: more) =
      pushAll push ⟨.gap true :: found, .between⟩ (c :: more) := by
  have hpush : push ⟨found, .between⟩ ' ' = some ⟨found, .gap true⟩ := rfl
  rw [pushAll_cons hpush]
  apply pushAll_congr
  apply push_complete
  simp [Mode.step, hspace, htab]

theorem Quote.char_not_blank (q : Quote) : q.char ≠ ' ' ∧ q.char ≠ '\t' ∧ '\n' ≠ q.char := by
  cases q <;> decide

theorem Style.write_eq_cons (style : Style) (cs : List Char) :
    ∃ rest, style.write cs = style.quote.char :: rest := by
  rw [style.write_eq]
  split <;> exact ⟨_, rfl⟩

theorem Plain.chars?_natural {n : Nat} {cs : List Char} (h : (natural n).chars? = some cs) :
    n ≤ 9223372036854775807 ∧ cs = Decimal.digits n := by
  have hwritten : (if n ≤ 9223372036854775807 then some (Decimal.digits n) else none) = some cs := h
  split at hwritten
  · exact ⟨‹_›, (Option.some.inj hwritten).symm⟩
  · cases hwritten

theorem pushAll_plain {v : Plain} {cs : List Char} (h : v.chars? = some cs) :
    (∃ d rest, cs = d :: rest ∧ d ≠ ' ' ∧ d ≠ '\t') ∧
      ∀ found more, pushAll push ⟨found, .between⟩ (cs ++ '\n' :: more) =
        pushAll push ⟨v.token :: found, .between⟩ ('\n' :: more) := by
  cases v with
  | text s =>
      obtain rfl := Option.some.inj h
      obtain ⟨hspace, htab, hnewline⟩ := (styleFor s.toList).quote.char_not_blank
      obtain ⟨rest, hfirst⟩ := (styleFor s.toList).write_eq_cons s.toList
      exact ⟨⟨_, rest, hfirst, hspace, htab⟩,
        fun _ _ => (styleFor_fits s.toList).pushAll_write hnewline⟩
  | natural n =>
      obtain ⟨-, rfl⟩ := Plain.chars?_natural h
      obtain ⟨d, rest, hfirst, hdigit, -⟩ := Decimal.digits_eq_cons n
      have hword : (Decimal.digits n).all isWordChar = true := by
        refine List.all_eq_true.mpr fun e he => isWordChar_of_isDigit ?_
        exact List.all_eq_true.mp (Decimal.all_isDigit_digits n) e he
      exact ⟨⟨d, rest, hfirst, Decimal.ne_of_isDigit hdigit rfl, Decimal.ne_of_isDigit hdigit rfl⟩,
        fun _ _ => pushAll_word (by rw [hfirst]; exact List.cons_ne_nil d rest) hword rfl⟩
  | bool b =>
      cases b with
      | false =>
          obtain rfl := Option.some.inj h
          exact ⟨⟨_, _, rfl, by decide, by decide⟩, fun _ _ => pushAll_word (by decide) rfl rfl⟩
      | true =>
          obtain rfl := Option.some.inj h
          exact ⟨⟨_, _, rfl, by decide, by decide⟩, fun _ _ => pushAll_word (by decide) rfl rfl⟩

theorem pushAll_newline (found : List Token) (more : List Char) :
    pushAll push ⟨found, .between⟩ ('\n' :: more) = pushAll push ⟨.newline :: found, .between⟩ more :=
  pushAll_cons rfl more

theorem pushAll_mark (hc : enter c = some ([.mark c], .between)) :
    pushAll push ⟨found, .between⟩ (c :: more) = pushAll push ⟨.mark c :: found, .between⟩ more := by
  refine pushAll_cons ?_ more
  simp [push, Mode.step, hc]

theorem pushAll_pairLine {entry : String × Plain} {line : List Char}
    (hkey : isBareKey entry.1 = true) (h : pairLine? entry = some line) :
    pushAll push ⟨found, .between⟩ (line ++ more) =
      pushAll push ⟨(pairTokens entry).reverse ++ found, .between⟩ more := by
  obtain ⟨cs, hchars, rfl⟩ := Option.map_eq_some_iff.mp h
  obtain ⟨⟨d, rest, hfirst, hspace, htab⟩, hvalue⟩ := pushAll_plain hchars
  obtain ⟨hne, hword, -⟩ := isBareKey_iff.mp hkey
  have hline : entry.1.toList ++ [' ', '=', ' '] ++ cs ++ ['\n'] ++ more =
      entry.1.toList ++ ' ' :: '=' :: ' ' :: (cs ++ '\n' :: more) := by
    simp
  rw [hline, pushAll_word hne hword rfl, pushAll_gap (by decide) (by decide), pushAll_mark rfl]
  -- The blanks of a gap are one token, so the value must not begin with another.
  have hgap : ∀ found, pushAll push ⟨found, .between⟩ (' ' :: (cs ++ '\n' :: more)) =
      pushAll push ⟨.gap true :: found, .between⟩ (cs ++ '\n' :: more) := by
    intro found
    rw [hfirst]
    exact pushAll_gap hspace htab
  rw [hgap, hvalue, pushAll_newline]
  rfl

theorem pushAll_pairLines {entries : List (String × Plain)} {lines : List (List Char)}
    (hkeys : ∀ e ∈ entries, isBareKey e.1 = true) (h : entries.mapM pairLine? = some lines) :
    pushAll push ⟨found, .between⟩ (lines.flatten ++ more) =
      pushAll push ⟨(entries.flatMap pairTokens).reverse ++ found, .between⟩ more := by
  induction entries generalizing found lines with
  | nil =>
      obtain rfl := Option.some.inj h
      rfl
  | cons e rest ih =>
      obtain ⟨line, lines', hline, hlines, rfl⟩ := mapM_cons_eq_some_iff.mp h
      rw [List.flatten_cons, List.append_assoc,
        pushAll_pairLine (hkeys e List.mem_cons_self) hline,
        ih (fun e' he' => hkeys e' (List.mem_cons_of_mem e he')) hlines]
      simp

theorem pushAll_section {s : Section} {part : List Char} (hname : isBareKey s.1 = true)
    (hkeys : ∀ e ∈ s.2, isBareKey e.1 = true) (h : section? s = some part) :
    pushAll push ⟨found, .between⟩ (part ++ more) =
      pushAll push ⟨(sectionTokens s).reverse ++ found, .between⟩ more := by
  obtain ⟨lines, hlines, rfl⟩ := section?_eq_some_iff.mp h
  obtain ⟨hne, hword, -⟩ := isBareKey_iff.mp hname
  have hpart : '[' :: s.1.toList ++ [']', '\n'] ++ lines.flatten ++ more =
      '[' :: (s.1.toList ++ ']' :: '\n' :: (lines.flatten ++ more)) := by
    simp
  rw [hpart, pushAll_mark rfl, pushAll_word hne hword rfl, pushAll_mark rfl, pushAll_newline,
    pushAll_pairLines hkeys hlines]
  simp [sectionTokens, headerTokens]

theorem documentTokens_singleton (s : Section) : documentTokens [s] = sectionTokens s := by
  simp [documentTokens]

theorem documentTokens_cons_cons (s t : Section) (rest : List Section) :
    documentTokens (s :: t :: rest) = sectionTokens s ++ .newline :: documentTokens (t :: rest) := by
  simp [documentTokens, List.intercalate_cons_cons]

theorem pushAll_sections {sections : List Section} {parts : List (List Char)}
    (hnames : ∀ s ∈ sections, isBareKey s.1 = true)
    (hkeys : ∀ s ∈ sections, ∀ e ∈ s.2, isBareKey e.1 = true)
    (h : sections.mapM section? = some parts) :
    pushAll push ⟨found, .between⟩ (List.intercalate ['\n'] parts ++ more) =
      pushAll push ⟨(documentTokens sections).reverse ++ found, .between⟩ more := by
  induction sections generalizing found parts with
  | nil =>
      obtain rfl := Option.some.inj h
      rfl
  | cons s rest ih =>
      obtain ⟨part, parts', hpart, hparts, rfl⟩ := mapM_cons_eq_some_iff.mp h
      have hname := hnames s List.mem_cons_self
      have hkey := hkeys s List.mem_cons_self
      cases rest with
      | nil =>
          obtain rfl : parts' = [] := (Option.some.inj hparts).symm
          rw [List.intercalate_singleton, pushAll_section hname hkey hpart, documentTokens_singleton]
      | cons t rest =>
          obtain ⟨part', rest', -, -, rfl⟩ := mapM_cons_eq_some_iff.mp hparts
          have hnames' := fun s' hs' => hnames s' (List.mem_cons_of_mem s hs')
          have hkeys' := fun s' hs' => hkeys s' (List.mem_cons_of_mem s hs')
          rw [List.intercalate_cons_cons, List.append_assoc, List.append_assoc,
            pushAll_section hname hkey hpart, List.singleton_append, pushAll_newline,
            ih hnames' hkeys' hparts, documentTokens_cons_cons]
          simp

theorem section?_eq_cons {s : Section} {part : List Char} (h : section? s = some part) :
    ∃ rest, part = '[' :: rest := by
  obtain ⟨lines, -, rfl⟩ := section?_eq_some_iff.mp h
  exact ⟨_, rfl⟩

theorem withoutMark_parts {sections : List Section} {parts : List (List Char)}
    (h : sections.mapM section? = some parts) :
    withoutMark (List.intercalate ['\n'] parts) = List.intercalate ['\n'] parts := by
  cases sections with
  | nil =>
      obtain rfl : parts = [] := (Option.some.inj h).symm
      rfl
  | cons s rest =>
      obtain ⟨part, parts', hpart, -, rfl⟩ := mapM_cons_eq_some_iff.mp h
      obtain ⟨chars, rfl⟩ := section?_eq_cons hpart
      cases parts' with
      | nil => rfl
      | cons part' rest' => rfl

/-- A written document is scanned to the tokens of its sections. -/
theorem tokens_document {sections : List Section} {text : String} (hnames : WellNamed sections)
    (h : document? sections = some text) : tokens text = some (documentTokens sections) := by
  obtain ⟨parts, hparts, rfl⟩ := document?_eq_some_iff.mp h
  have hscan : pushAll push {} (List.intercalate ['\n'] parts) =
      some ⟨(documentTokens sections).reverse, .between⟩ := by
    have hscan : pushAll push ⟨[], .between⟩ (List.intercalate ['\n'] parts ++ []) = _ :=
      pushAll_sections hnames.bare hnames.bareKeys hparts
    simpa using hscan
  show (pushAll push {} (withoutMark (String.ofList _).toList)).bind Scan.close = _
  rw [String.toList_ofList, withoutMark_parts hparts, hscan]
  simp [Scan.close, Mode.finish]

end Keyring.Toml
