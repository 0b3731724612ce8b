import Keyring.Proofs.Text.Machine
import Keyring.Toml.Printer

namespace Keyring.Toml

open Machine Scan

/-- The number of quotes that may stand together in a string of a form. -/
def quoteLimit (block : Bool) : Nat :=
  if block then 2 else 0

/-- A scan in a string with these characters so far, of which the last ones may be quotes that close
it. -/
inductive Inside (found : List Token) : Open → Nat → Scan → Prop where
  | intro (o : Open) (quotes : Nat) (hquotes : quotes ≤ quoteLimit o.block) :
    Inside found (o.pushQuotes quotes) quotes ⟨found, .inside o quotes⟩

/-- The string `o` and then the characters `cs`. -/
def Open.extend (o : Open) (cs : List Char) : Open :=
  { o with chars := cs.reverse ++ o.chars }

theorem Open.extend_cons (o : Open) (c : Char) (cs : List Char) :
    o.extend (c :: cs) = (o.push c).extend cs := by
  simp [extend, push]

variable {found : List Token} {o : Open} {quotes : Nat} {s : Scan} {c : Char} {cs : List Char}

theorem quoteLimit_le_two (block : Bool) : quoteLimit block ≤ 2 := by
  cases block <;> decide

namespace Inside

theorem start (found : List Token) (o : Open) : Inside found o 0 ⟨found, .inside o 0⟩ :=
  .intro o 0 (Nat.zero_le _)

theorem push_other (h : Inside found o quotes s) (hc : c ≠ o.quote.char) :
    s.push c = (insideStep o c).map fun r => ⟨r.1.reverse ++ found, r.2⟩ := by
  cases h with
  | intro o quotes hquotes =>
      have hle := quoteLimit_le_two o.block
      have hthree : quotes < 3 := by omega
      have hc' : c ≠ o.quote.char := hc
      simp only [push, Mode.step, hc', if_false, hthree, if_true]
      rcases insideStep (o.pushQuotes quotes) c with _ | _ <;> rfl

theorem push_quote (h : Inside found o quotes s) (hquotes : quotes < quoteLimit o.block) :
    ∃ s', s.push o.quote.char = some s' ∧ Inside found (o.push o.quote.char) (quotes + 1) s' := by
  cases h with
  | intro o quotes _ =>
      have hblock : o.block = true := by
        cases hblock : o.block with
        | true => rfl
        | false =>
            have hnone : quotes < quoteLimit o.block := hquotes
            rw [hblock] at hnone
            exact absurd hnone (Nat.not_lt_zero quotes)
      have hlt : quotes < 2 := Nat.lt_of_lt_of_le hquotes (quoteLimit_le_two o.block)
      have hfour : quotes ≠ 4 := by omega
      refine ⟨⟨found, .inside o (quotes + 1)⟩, ?_, .intro o (quotes + 1) hquotes⟩
      have hquote : (o.pushQuotes quotes).quote.char = o.quote.char := rfl
      simp [push, Mode.step, hquote, hblock, hfour]

theorem push_backslash (h : Inside found o quotes s) (hquote : o.quote = .basic) :
    s.push '\\' = some ⟨found, .escaped o⟩ := by
  have hne : '\\' ≠ o.quote.char := by
    rw [hquote]
    decide
  rw [h.push_other hne]
  simp [insideStep, hquote]

end Inside

theorem insideStep_plain (hescape : o.quote = .basic → c ≠ '\\') (hcontrol : isControl c = false)
    (hline : c = '\n' → o.block = true) : insideStep o c = some ([], .inside (o.push c) 0) := by
  have hbackslash : ¬ (c = '\\' ∧ o.quote = .basic) := fun h => hescape h.2 h.1
  unfold insideStep
  rw [if_neg hbackslash]
  by_cases hnewline : c = '\n' ∧ o.block = true
  · rw [if_pos hnewline, hnewline.1]
  · have hreturn : ¬ (c = '\r' ∧ o.block = true) := by
      rintro ⟨rfl, -⟩
      exact absurd hcontrol (by decide)
    have hnot : c ≠ '\n' := fun h => hnewline ⟨h, hline h⟩
    have hplain : isPlain c = true := by
      simp only [isControl, Bool.or_eq_false_iff, Bool.and_eq_false_iff, decide_eq_false_iff_not]
        at hcontrol
      simp only [isPlain, Bool.or_eq_true, Bool.and_eq_true, decide_eq_true_eq, beq_iff_eq]
      obtain ⟨(hlow | htab) | hfeed, hdelete⟩ := hcontrol
      · exact .inr ⟨Nat.not_lt.mp hlow, hdelete⟩
      · exact .inl (Classical.not_not.mp htab)
      · exact absurd hnot hfeed
    rw [if_neg hnewline, if_neg hreturn, if_pos hplain]

theorem Inside.push_plain (h : Inside found o quotes s) (hc : c ≠ o.quote.char)
    (hescape : o.quote = .basic → c ≠ '\\') (hcontrol : isControl c = false)
    (hline : c = '\n' → o.block = true) : s.push c = some ⟨found, .inside (o.push c) 0⟩ := by
  rw [h.push_other hc, insideStep_plain hescape hcontrol hline]
  rfl

section Escapes

theorem push_escaped {d : Char} (h : unescape d = some c) :
    push ⟨found, .escaped o⟩ d = some ⟨found, .inside (o.push c) 0⟩ := by
  unfold unescape at h
  split at h
  all_goals
    cases h
  all_goals
    simp [push, Mode.step, unescape]

theorem digit?_upper : ∀ d < 16, Hex.digit? (Hex.upper d) = some d := by
  decide

theorem pushAll_unit (hc : c.toNat < 65536) :
    pushAll push ⟨found, .unit o 4 0⟩ (Hex.upper4 c.toNat) = some ⟨found, .inside (o.push c) 0⟩ := by
  have hfirst := digit?_upper (c.toNat / 4096 % 16) (Nat.mod_lt _ (by decide))
  have hsecond := digit?_upper (c.toNat / 256 % 16) (Nat.mod_lt _ (by decide))
  have hthird := digit?_upper (c.toNat / 16 % 16) (Nat.mod_lt _ (by decide))
  have hfourth := digit?_upper (c.toNat % 16) (Nat.mod_lt _ (by decide))
  have hvalue : 16 * (16 * (16 * (c.toNat / 4096 % 16) + c.toNat / 256 % 16) + c.toNat / 16 % 16) +
      c.toNat % 16 = c.toNat := by
    omega
  have hchar : charOf? c.toNat = some c := by
    have hvalid : c.toNat.isValidChar := c.valid
    rw [charOf?, if_pos hvalid, Char.ofNat_toNat]
  simp [pushAll, Hex.upper4, push, Mode.step, hfirst, hsecond, hthird, hfourth, hvalue, hchar]

theorem leads_escape {e : List Char} (h : Inside found o quotes s) (hquote : o.quote = .basic)
    (he : escape? o.block c = some e) : Leads push s e (Inside found (o.push c) 0) := by
  have hshort : ∀ d, unescape d = some c → Leads push s ['\\', d] (Inside found (o.push c) 0) :=
    fun d hd => .cons (h.push_backslash hquote) (.cons (push_escaped hd) (.nil (.start _ _)))
  unfold escape? at he
  split at he
  · cases he
    exact hshort 'b' rfl
  · cases he
    exact hshort 't' rfl
  · split at he
    · cases he
    · cases he
      exact hshort 'n' rfl
  · cases he
    exact hshort 'f' rfl
  · cases he
    exact hshort 'r' rfl
  · cases he
    exact hshort '\\' rfl
  · split at he
    · rename_i hcontrol
      cases he
      have hlow : c.toNat < 65536 := by
        simp only [isControl, Bool.or_eq_true, Bool.and_eq_true, decide_eq_true_eq] at hcontrol
        omega
      have hmarked : push ⟨found, .escaped o⟩ 'u' = some ⟨found, .unit o 4 0⟩ := rfl
      exact .cons (h.push_backslash hquote) (.cons hmarked ⟨_, pushAll_unit hlow, .start _ _⟩)
    · cases he

theorem of_escape?_eq_none {block : Bool} (h : escape? block c = none) :
    c ≠ '\\' ∧ isControl c = false ∧ (c = '\n' → block = true) := by
  unfold escape? at h
  split at h
  all_goals
    try contradiction
  · split at h
    · rename_i hblock
      exact ⟨by decide, by decide, fun _ => hblock⟩
    · contradiction
  · rename_i hnewline _ _ hbackslash
    split at h
    · contradiction
    · rename_i hcontrol
      exact ⟨hbackslash, Bool.eq_false_iff.mpr hcontrol, fun hc => absurd hc hnewline⟩

end Escapes

theorem leads_basicChars {block : Bool} (h : Inside found o quotes s) (hquote : o.quote = .basic)
    (hblock : o.block = block) :
    Leads push s (basicChars block quotes cs) fun s' => ∃ n, Inside found (o.extend cs) n s' := by
  have hchar : o.quote.char = '"' := by
    rw [hquote]
    rfl
  -- The printer's count of quotes is the machine's, so they reach their limit together.
  fun_induction basicChars block quotes cs generalizing o s with
  | case1 quotes => exact .nil ⟨quotes, h⟩
  | case2 quotes rest hlt ih =>
      have hlimit : quotes < quoteLimit o.block := by
        rw [hblock]
        exact hlt
      obtain ⟨s₁, hpush, h₁⟩ := h.push_quote hlimit
      rw [hchar] at hpush h₁
      rw [o.extend_cons]
      exact .cons hpush (ih h₁ hquote hblock hchar)
  | case3 quotes rest _ ih =>
      have hescaped : Leads push s ['\\', '"'] (Inside found (o.push '"') 0) :=
        .cons (h.push_backslash hquote) (.cons (push_escaped rfl) (.nil (.start _ _)))
      rw [o.extend_cons]
      exact hescaped.append fun s₁ h₁ => ih h₁ hquote hblock hchar
  | case4 quotes c rest _ e he ih =>
      rw [o.extend_cons]
      exact (leads_escape h hquote (hblock.symm ▸ he)).append
        fun s₁ h₁ => ih h₁ hquote hblock hchar
  | case5 quotes c rest hne hplain ih =>
      obtain ⟨hbackslash, hcontrol, hline⟩ := of_escape?_eq_none hplain
      have hpush := h.push_plain (fun hc => hne (hc.trans hchar)) (fun _ => hbackslash) hcontrol
        (fun hc => hblock.trans (hline hc))
      rw [o.extend_cons]
      exact .cons hpush (ih (.start _ _) hquote hblock hchar)

theorem le_longestRun (q : Char) (run : Nat) (cs : List Char) : run ≤ longestRun q run cs := by
  induction cs generalizing run with
  | nil => exact Nat.le_refl run
  | cons c rest ih =>
      unfold longestRun
      split
      · exact Nat.le_of_succ_le (ih (run + 1))
      · exact Nat.le_max_left ..

theorem leads_literal (h : Inside found o quotes s) (hquote : o.quote = .literal)
    (hcontrol : ∀ c ∈ cs, isControl c = false)
    (hline : o.block = false → '\'' ∉ cs ∧ '\n' ∉ cs)
    (hrun : o.block = true → longestRun '\'' quotes cs ≤ 2) :
    Leads push s cs fun s' => ∃ n, Inside found (o.extend cs) n s' := by
  have hchar : o.quote.char = '\'' := by
    rw [hquote]
    rfl
  induction cs generalizing o quotes s with
  | nil => exact .nil ⟨quotes, h⟩
  | cons c rest ih =>
      have hrest := fun d hd => hcontrol d (List.mem_cons_of_mem c hd)
      have hlater : o.block = false → '\'' ∉ rest ∧ '\n' ∉ rest := fun hblock =>
        ⟨fun hd => (hline hblock).1 (List.mem_cons_of_mem c hd),
          fun hd => (hline hblock).2 (List.mem_cons_of_mem c hd)⟩
      rw [o.extend_cons]
      by_cases hc : c = '\''
      · subst hc
        have hblock : o.block = true := by
          rw [← Bool.not_eq_false]
          exact fun hnone => (hline hnone).1 List.mem_cons_self
        have hlong := hrun hblock
        rw [longestRun, if_pos rfl] at hlong
        have hlimit : quotes < quoteLimit o.block := by
          rw [hblock]
          exact Nat.le_trans (le_longestRun '\'' (quotes + 1) rest) hlong
        obtain ⟨s₁, hpush, h₁⟩ := h.push_quote hlimit
        rw [hchar] at hpush h₁
        exact .cons hpush (ih h₁ hquote hrest hlater (fun _ => hlong) hchar)
      · have hpush := h.push_plain (fun heq => hc (heq.trans hchar))
          (fun hbasic => absurd (hquote.symm.trans hbasic) (by decide))
          (hcontrol c List.mem_cons_self) fun heq => by
            rw [← Bool.not_eq_false]
            exact fun hnone => (hline hnone).2 (heq ▸ List.mem_cons_self)
        have hshort : o.block = true → longestRun '\'' 0 rest ≤ 2 := by
          intro hblock
          have hlong := hrun hblock
          rw [longestRun, if_neg hc] at hlong
          exact Nat.le_trans (Nat.le_max_right ..) hlong
        exact .cons hpush (ih (.start _ _) hquote hrest hlater hshort hchar)

section Ends

variable {more : List Char}

theorem push_complete {mode : Mode} {t : Token} (h : mode.step c = complete t c) :
    push ⟨found, mode⟩ c = push ⟨t :: found, .between⟩ c := by
  have hbetween : Mode.between.step c = enter c := rfl
  simp only [push, h, complete, hbetween]
  rcases enter c with _ | ⟨ts, mode'⟩
  · rfl
  · simp

/-- A string ends with its closing quotes, if no more quotes follow. -/
theorem pushAll_close (h : Inside found o quotes s) (hc : c ≠ o.quote.char) :
    pushAll push s (List.replicate (if o.block then 3 else 1) o.quote.char ++ c :: more) =
      pushAll push ⟨o.token :: found, .between⟩ (c :: more) := by
  cases h with
  | intro o quotes hquotes =>
      have hquote : (o.pushQuotes quotes).quote.char = o.quote.char := rfl
      have hsame : (o.pushQuotes quotes).block = o.block := rfl
      rw [hquote, hsame]
      cases hblock : o.block with
      | false =>
          rw [hblock] at hquotes
          obtain rfl : quotes = 0 := Nat.le_zero.mp hquotes
          have hpush : push ⟨found, .inside o 0⟩ o.quote.char = some ⟨o.token :: found, .between⟩ := by
            simp [push, Mode.step, hblock]
          exact pushAll_cons hpush (c :: more)
      | true =>
          rw [hblock] at hquotes
          have hmore : ∀ n ≠ 4, push ⟨found, .inside o n⟩ o.quote.char =
              some ⟨found, .inside o (n + 1)⟩ := by
            intro n hn
            simp [push, Mode.step, hblock, hn]
          have htwo : quotes ≤ 2 := hquotes
          rw [if_pos rfl]
          show pushAll push _ (o.quote.char :: o.quote.char :: o.quote.char :: c :: more) = _
          -- With two quotes before them, the closing ones make five, which end the string at once;
          -- with fewer, it ends when `c` is no quote.
          rw [pushAll_cons (hmore quotes (by omega)), pushAll_cons (hmore (quotes + 1) (by omega))]
          by_cases hfull : quotes = 2
          · subst hfull
            have hlast : push ⟨found, .inside o 4⟩ o.quote.char =
                some ⟨(o.pushQuotes 2).token :: found, .between⟩ := by
              simp [push, Mode.step, hblock]
            exact pushAll_cons hlast (c :: more)
          · rw [pushAll_cons (hmore (quotes + 2) (by omega))]
            apply pushAll_congr
            apply push_complete
            have hc' : c ≠ o.quote.char := hc
            have hthree : ¬ quotes + 3 < 3 := by omega
            have hleft : quotes + 3 - 3 = quotes := by omega
            simp only [Mode.step, if_neg hc', if_neg hthree, hleft]

theorem push_opening (q : Quote) :
    push ⟨found, .between⟩ q.char = some ⟨found, .opening q false⟩ := by
  cases q <;> rfl

theorem pushAll_openLine {q : Quote} {d : Char} (hd : d ≠ q.char) (w : List Char) :
    pushAll push ⟨found, .between⟩ (q.char :: d :: w) =
      pushAll push ⟨found, .inside ⟨q, false, []⟩ 0⟩ (d :: w) := by
  rw [pushAll_cons (push_opening q)]
  apply pushAll_congr
  rw [(Inside.start found ⟨q, false, []⟩).push_other hd]
  simp only [push, Mode.step, if_neg hd]
  rcases insideStep ⟨q, false, []⟩ d with _ | _ <;> rfl

theorem pushAll_openBlock (q : Quote) (w : List Char) :
    pushAll push ⟨found, .between⟩ (q.char :: q.char :: q.char :: w) =
      pushAll push ⟨found, .blockStart q⟩ w := by
  have hsecond : push ⟨found, .opening q false⟩ q.char = some ⟨found, .opening q true⟩ := by
    simp [push, Mode.step]
  have hthird : push ⟨found, .opening q true⟩ q.char = some ⟨found, .blockStart q⟩ := by
    simp [push, Mode.step]
  rw [pushAll_cons (push_opening q), pushAll_cons hsecond, pushAll_cons hthird]

theorem pushAll_blockStart {q : Quote} {d : Char} (hnewline : d ≠ '\n') (hreturn : d ≠ '\r')
    (w : List Char) :
    pushAll push ⟨found, .blockStart q⟩ (d :: w) =
      pushAll push ⟨found, .inside ⟨q, true, []⟩ 0⟩ (d :: w) := by
  apply pushAll_congr
  simp only [push, Mode.step, if_neg hnewline, if_neg hreturn, blockStep]
  by_cases hd : d = q.char
  · simp [hd]
  · simp [hd, Open.pushQuotes]

end Ends

section Styles

variable {style : Style} {more : List Char}

/-- What stands between the quotes of a style. -/
def Style.inner (style : Style) (cs : List Char) : List Char :=
  match style.quote with
  | .basic => basicChars style.block 0 cs
  | .literal => cs

/-- The token of a string in quotes of a style. -/
def Style.token (style : Style) (cs : List Char) : Token :=
  Open.token ⟨style.quote, style.block, cs.reverse⟩

theorem Style.holds_literal (hquote : style.quote = .literal) (h : style.holds cs = true) :
    (∀ c ∈ cs, isControl c = false) ∧ (style.block = false → '\'' ∉ cs ∧ '\n' ∉ cs) ∧
      (style.block = true → longestRun '\'' 0 cs ≤ 2) := by
  have hliteral : (style.quote == Quote.literal) = true := by rw [hquote]; rfl
  have hchar : style.quote.char = '\'' := by rw [hquote]; rfl
  simp only [Style.holds, hliteral, hchar, Bool.true_or, Bool.and_true, Bool.and_eq_true,
    Bool.not_eq_true', List.any_eq_false] at h
  refine ⟨fun c hc => Bool.eq_false_iff.mpr (h.1 c hc), fun hblock => ?_, fun hblock => ?_⟩
  · simpa [hblock] using h.2
  · simpa [hblock] using h.2

/-- A style that may write a text: any one with escapes, and one without that holds it. -/
def Style.Fits (style : Style) (cs : List Char) : Prop :=
  style.quote = .literal → style.holds cs = true

theorem styleFor_fits (cs : List Char) : (styleFor cs).Fits cs := by
  intro hquote
  unfold styleFor at hquote ⊢
  dsimp only at hquote ⊢
  generalize hfind : List.find? _ _ = found at hquote ⊢
  cases found with
  | none => cases hquote
  | some style =>
      have hholds := List.find?_some hfind
      exact hholds

theorem Style.Fits.leads_inner (h : style.Fits cs) :
    Leads push ⟨found, .inside ⟨style.quote, style.block, []⟩ 0⟩ (style.inner cs)
      fun s' => ∃ n, Inside found ⟨style.quote, style.block, cs.reverse⟩ n s' := by
  have hextend : Open.extend ⟨style.quote, style.block, []⟩ cs =
      ⟨style.quote, style.block, cs.reverse⟩ := by
    simp [Open.extend]
  rw [← hextend]
  unfold Style.inner
  cases hquote : style.quote with
  | basic => exact leads_basicChars (.start _ _) rfl rfl
  | literal =>
      obtain ⟨hcontrol, hline, hrun⟩ := Style.holds_literal hquote (h hquote)
      exact leads_literal (.start _ _) rfl hcontrol hline hrun

theorem exists_of_escape? {block : Bool} {e : List Char} (h : escape? block c = some e) :
    ∃ rest, e = '\\' :: rest := by
  unfold escape? at h
  split at h
  case h_3 | h_7 =>
    split at h
    all_goals
      cases h
    all_goals
      exact ⟨_, rfl⟩
  all_goals
    cases h
    exact ⟨_, rfl⟩

/-- A string with escapes does not begin with a line break that is not its own, and within a line
not with a quote. -/
theorem head_basicChars {block : Bool} {d : Char} {w : List Char}
    (hd : basicChars block 0 cs = d :: w) :
    d ≠ '\r' ∧ (block = false → d ≠ '"') ∧ (d = '\n' → '\n' ∈ cs ∧ block = true) := by
  have hbackslash : ∀ {u v : List Char}, '\\' :: u = d :: v →
      d ≠ '\r' ∧ (block = false → d ≠ '"') ∧ (d = '\n' → '\n' ∈ cs ∧ block = true) := by
    intro u v heq
    obtain ⟨rfl, -⟩ := List.cons.inj heq
    exact ⟨by decide, fun _ => by decide, fun h => absurd h (by decide)⟩
  unfold basicChars at hd
  split at hd
  · cases hd
  · split at hd
    · rename_i hlt
      obtain ⟨rfl, -⟩ := List.cons.inj hd
      refine ⟨by decide, fun hblock => ?_, fun h => absurd h (by decide)⟩
      rw [hblock] at hlt
      exact absurd hlt (by decide)
    · exact hbackslash hd
  · rename_i c rest hquote
    split at hd
    · rename_i e he
      obtain ⟨u, rfl⟩ := exists_of_escape? he
      exact hbackslash hd
    · rename_i hplain
      obtain ⟨rfl, -⟩ := List.cons.inj hd
      obtain ⟨-, hcontrol, hline⟩ := of_escape?_eq_none hplain
      refine ⟨?_, fun _ => hquote, fun h => ⟨h ▸ List.mem_cons_self, hline h⟩⟩
      rintro rfl
      exact absurd hcontrol (by decide)

theorem Style.Fits.head_inner (h : style.Fits cs) {d : Char} {w : List Char}
    (hd : style.inner cs = d :: w) :
    d ≠ '\r' ∧ (style.block = false → d ≠ style.quote.char) ∧
      (d = '\n' → '\n' ∈ cs ∧ style.block = true) := by
  unfold Style.inner at hd
  cases hquote : style.quote with
  | basic =>
      rw [hquote] at hd
      exact head_basicChars hd
  | literal =>
      rw [hquote] at hd
      obtain rfl : cs = d :: w := hd
      obtain ⟨hcontrol, hline, -⟩ := Style.holds_literal hquote (h hquote)
      refine ⟨?_, ?_, ?_⟩
      · rintro rfl
        exact absurd (hcontrol '\r' List.mem_cons_self) (by decide)
      · rintro hblock rfl
        exact (hline hblock).1 List.mem_cons_self
      · rintro rfl
        refine ⟨List.mem_cons_self, ?_⟩
        rw [← Bool.not_eq_false]
        exact fun hblock => (hline hblock).2 List.mem_cons_self

theorem Style.inner_eq_nil (h : style.inner cs = []) : cs = [] := by
  unfold Style.inner at h
  split at h
  · unfold basicChars at h
    split at h
    · rfl
    · split at h
      all_goals
        cases h
    · split at h
      · rename_i e he
        obtain ⟨u, rfl⟩ := exists_of_escape? he
        cases h
      · cases h
  · exact h

theorem Style.write_eq (style : Style) (cs : List Char) :
    style.write cs = List.replicate (if style.block then 3 else 1) style.quote.char ++
      ((if style.block && cs.contains '\n' then ['\n'] else []) ++ (style.inner cs ++
        List.replicate (if style.block then 3 else 1) style.quote.char)) := by
  obtain ⟨quote, block⟩ := style
  cases quote <;> simp [write, inner]

theorem Style.Fits.pushAll_rest (h : style.Fits cs) (hc : c ≠ style.quote.char) (more : List Char) :
    pushAll push ⟨found, .inside ⟨style.quote, style.block, []⟩ 0⟩ (style.inner cs ++
        (List.replicate (if style.block then 3 else 1) style.quote.char ++ c :: more)) =
      pushAll push ⟨style.token cs :: found, .between⟩ (c :: more) := by
  obtain ⟨s', hinner, n, hinside⟩ :
      Leads push ⟨found, .inside ⟨style.quote, style.block, []⟩ 0⟩ (style.inner cs) _ := h.leads_inner
  rw [pushAll_append hinner]
  exact pushAll_close hinside hc

theorem pushAll_empty (q : Quote) (hc : c ≠ q.char) :
    pushAll push ⟨found, .between⟩ (q.char :: q.char :: c :: more) =
      pushAll push ⟨.quoted "" :: found, .between⟩ (c :: more) := by
  have hsecond : push ⟨found, .opening q false⟩ q.char = some ⟨found, .opening q true⟩ := by
    simp [push, Mode.step]
  rw [pushAll_cons (push_opening q), pushAll_cons hsecond]
  apply pushAll_congr
  apply push_complete
  simp only [Mode.step, if_neg hc]

/-- A string comes back from its quotes, if no more quotes follow. -/
theorem Style.Fits.pushAll_write (h : style.Fits cs) (hc : c ≠ style.quote.char) :
    pushAll push ⟨found, .between⟩ (style.write cs ++ c :: more) =
      pushAll push ⟨style.token cs :: found, .between⟩ (c :: more) := by
  -- The quotes of an empty string could as well begin a block.
  by_cases hempty : style.block = false ∧ style.inner cs = []
  · obtain ⟨hblock, hinner⟩ := hempty
    have htoken : style.token cs = .quoted "" := by
      rw [Style.inner_eq_nil hinner, Style.token, Open.token, hblock]
      rfl
    rw [style.write_eq, hblock, hinner, htoken]
    exact pushAll_empty style.quote hc
  · refine Eq.trans ?_ (h.pushAll_rest hc more)
    rw [style.write_eq, List.append_assoc, List.append_assoc, List.append_assoc]
    cases hblock : style.block with
    | false =>
        show pushAll push _ (style.quote.char :: (style.inner cs ++ style.quote.char :: c :: more)) = _
        cases hinner : style.inner cs with
        | nil => exact absurd ⟨hblock, hinner⟩ hempty
        | cons d w => exact pushAll_openLine ((h.head_inner hinner).2.1 hblock) _
    | true =>
        show pushAll push _ (style.quote.char :: style.quote.char :: style.quote.char :: _) = _
        rw [pushAll_openBlock, Bool.true_and]
        cases hlines : cs.contains '\n' with
        | true => rfl
        | false =>
            -- No line break is written first, and so the text must not begin with one.
            have hnone : '\n' ∉ cs := by simpa using hlines
            show pushAll push _ (style.inner cs ++ _) = _
            cases hinner : style.inner cs with
            | nil =>
                have hquote : style.quote.char ≠ '\n' ∧ style.quote.char ≠ '\r' := by
                  cases style.quote <;> decide
                exact pushAll_blockStart hquote.1 hquote.2 _
            | cons d w =>
                obtain ⟨hreturn, -, hline⟩ := h.head_inner hinner
                exact pushAll_blockStart (fun hd => hnone (hline hd).1) hreturn _

end Styles

end Keyring.Toml
