import Mathlib.Algebra.GroupWithZero.Nat
import Keyring.Duration.Text
import Keyring.Proofs.Text.Decimal
import Keyring.Proofs.Text.Machine

namespace Keyring.Duration

open Machine

/-- A number of units of time, with the name of the unit beside the number. -/
structure Amount where
  count : Nat
  unit : TimeUnit
  name : String

namespace Amount

def chars (a : Amount) : List Char :=
  Decimal.digits a.count ++ a.name.toList

/-- How many nanoseconds it counts. -/
def length (a : Amount) : Nat :=
  a.count * (a.unit.secs * 1000000000 + a.unit.nanos)

/-- An amount that can be read: its name is one of its unit, and units of less than a second do not
add up to one. -/
structure Proper (a : Amount) : Prop where
  named : TimeUnit.ofName? a.name = some a.unit
  fits : a.count ≤ Decimal.max64
  small : a.count * a.unit.nanos < 1000000000

end Amount

def total (amounts : List Amount) : Nat :=
  (amounts.map Amount.length).sum

/-- The amounts that a text names. -/
def present (amounts : List Amount) : List Amount :=
  amounts.filter fun a => a.count ≠ 0

section Sum

theorem total_present (amounts : List Amount) : total (present amounts) = total amounts := by
  induction amounts with
  | nil => rfl
  | cons a rest ih =>
      by_cases hzero : a.count = 0
      · have hlength : a.length = 0 := by rw [Amount.length, hzero, Nat.zero_mul]
        have hpresent : present (a :: rest) = present rest := by simp [present, hzero]
        rw [hpresent, ih]
        simp [total, hlength]
      · have hpresent : present (a :: rest) = a :: present rest := by simp [present, hzero]
        have hrest : ((present rest).map Amount.length).sum = (rest.map Amount.length).sum := ih
        rw [hpresent]
        simp [total, hrest]

theorem Amount.length_eq (a : Amount) :
    a.length = a.count * a.unit.secs * 1000000000 + a.count * a.unit.nanos := by
  rw [length, Nat.mul_add, Nat.mul_assoc]

/-- What amounts count in units of a second and more. -/
def secsOf (amounts : List Amount) : Nat :=
  (amounts.map fun a => a.count * a.unit.secs).sum

/-- What amounts count in units of less than a second. -/
def nanosOf (amounts : List Amount) : Nat :=
  (amounts.map fun a => a.count * a.unit.nanos).sum

@[simp] theorem secsOf_nil : secsOf [] = 0 := by
  simp [secsOf]

@[simp] theorem nanosOf_nil : nanosOf [] = 0 := by
  simp [nanosOf]

theorem secsOf_cons (count : Nat) (unit : TimeUnit) (name : String) (rest : List Amount) :
    secsOf (⟨count, unit, name⟩ :: rest) = count * unit.secs + secsOf rest := by
  simp [secsOf]

theorem nanosOf_cons (count : Nat) (unit : TimeUnit) (name : String) (rest : List Amount) :
    nanosOf (⟨count, unit, name⟩ :: rest) = count * unit.nanos + nanosOf rest := by
  simp [nanosOf]

theorem total_cons (a : Amount) (rest : List Amount) : total (a :: rest) = a.length + total rest := by
  simp [total]

theorem total_eq (amounts : List Amount) :
    total amounts = secsOf amounts * 1000000000 + nanosOf amounts := by
  induction amounts with
  | nil => rfl
  | cons a rest ih =>
      have hlength := a.length_eq
      rw [total_cons, secsOf_cons, nanosOf_cons]
      omega

theorem addUnits_eq {a : Amount} (ha : a.Proper) {d : Duration}
    (h : (d.nanoseconds + a.length) / 1000000000 ≤ Decimal.max64) :
    addUnits d a.count none a.name = some ⟨d.nanoseconds + a.length, h⟩ := by
  have hlength := a.length_eq
  have hsmall := ha.small
  unfold Decimal.max64 at h
  have hsecs : word? (a.count * a.unit.secs) = some (a.count * a.unit.secs) := by
    apply if_pos
    unfold Decimal.max64
    omega
  have hnanos : word? (a.count * a.unit.nanos) = some (a.count * a.unit.nanos) := by
    apply if_pos
    unfold Decimal.max64
    omega
  have hfraction : word? (d.fraction + a.count * a.unit.nanos) =
      some (d.fraction + a.count * a.unit.nanos) := by
    apply if_pos
    unfold Decimal.max64 fraction
    omega
  have hsum : d.nanoseconds + a.count * a.unit.secs * 1000000000 + a.count * a.unit.nanos =
      d.nanoseconds + a.length := by
    omega
  have hfits : ofNanoseconds? (d.nanoseconds + a.length) = some ⟨d.nanoseconds + a.length, h⟩ :=
    dif_pos h
  simp [addUnits, ha.named, wholePart, hsecs, hnanos, plus?, hfraction, hsum, hfits]

theorem foldlM_addUnits {amounts : List Amount} (hproper : ∀ a ∈ amounts, a.Proper) {d : Duration}
    (h : (d.nanoseconds + total amounts) / 1000000000 ≤ Decimal.max64) :
    amounts.foldlM (fun d a => addUnits d a.count none a.name) d =
      some ⟨d.nanoseconds + total amounts, h⟩ := by
  induction amounts generalizing d with
  | nil => rfl
  | cons a rest ih =>
      have htotal := total_cons a rest
      have hfirst : (d.nanoseconds + a.length) / 1000000000 ≤ Decimal.max64 := by
        rw [htotal] at h
        omega
      have hrest : (d.nanoseconds + a.length + total rest) / 1000000000 ≤ Decimal.max64 := by
        rwa [htotal, ← Nat.add_assoc] at h
      rw [List.foldlM_cons, addUnits_eq (hproper a List.mem_cons_self) hfirst]
      refine (ih (fun a' ha' => hproper a' (List.mem_cons_of_mem a ha')) hrest).trans ?_
      simp [htotal, Nat.add_assoc]

end Sum

section Scanning

variable {sum : Option Duration} {n : Nat} {c : Char} {cs : List Char}

theorem pushAll_digits (sum : Option Duration) (h : n ≤ Decimal.max64) :
    pushAll Scan.push ⟨sum, .gap⟩ (Decimal.digits n) = some ⟨sum, .whole n⟩ := by
  induction n using Decimal.digit_induction with
  | digit n hn =>
      rw [Decimal.digits_of_lt hn]
      refine pushAll_cons ?_ []
      simp [Scan.push, Decimal.digit?_digitChar n hn]
  | more n hn ih =>
      rw [Decimal.digits_of_le hn, pushAll_append (ih (by omega))]
      refine pushAll_cons ?_ []
      have hvalue : 10 * (n / 10) + n % 10 = n := Nat.div_add_mod n 10
      have hword : word? n = some n := if_pos h
      simp [Scan.push, Decimal.digit?_digitChar (n % 10) (by omega), hvalue, hword]

theorem of_isUnitLetter (h : isUnitLetter c = true) :
    Decimal.digit? c = none ∧ Text.isBlank c = false := by
  have hrange : (97 ≤ c.toNat ∧ c.toNat ≤ 122) ∨ (65 ≤ c.toNat ∧ c.toNat ≤ 90) ∨ c.toNat = 181 := by
    simp only [isUnitLetter, Bool.or_eq_true, Bool.and_eq_true, decide_eq_true_eq, beq_iff_eq] at h
    rcases h with (⟨hlow, hhigh⟩ | ⟨hlow, hhigh⟩) | rfl
    · exact .inl ⟨UInt32.le_iff_toNat_le.mp hlow, UInt32.le_iff_toNat_le.mp hhigh⟩
    · exact .inr (.inl ⟨UInt32.le_iff_toNat_le.mp hlow, UInt32.le_iff_toNat_le.mp hhigh⟩)
    · exact .inr (.inr rfl)
  constructor
  · refine if_neg ?_
    rintro ⟨-, hnine⟩
    have hle : c.toNat ≤ 57 := UInt32.le_iff_toNat_le.mp hnine
    omega
  · rw [← Bool.not_eq_true]
    simp only [Text.isBlank, Bool.or_eq_true, Bool.and_eq_true, decide_eq_true_eq, beq_iff_eq]
    omega

theorem pushAll_letters (seen : List Char) (h : cs.all isUnitLetter = true) :
    pushAll Scan.push ⟨sum, .unit n none seen⟩ cs =
      some ⟨sum, .unit n none (cs.reverse ++ seen)⟩ := by
  induction cs generalizing seen with
  | nil => rfl
  | cons c rest ih =>
      rw [List.all_cons, Bool.and_eq_true_iff] at h
      have hpush : Scan.push ⟨sum, .unit n none seen⟩ c = some ⟨sum, .unit n none (c :: seen)⟩ := by
        simp [Scan.push, h.1]
      rw [pushAll_cons hpush, ih (c :: seen) h.2]
      simp

theorem pushAll_name (hne : cs ≠ []) (h : cs.all isUnitLetter = true) :
    pushAll Scan.push ⟨sum, .whole n⟩ cs = some ⟨sum, .unit n none cs.reverse⟩ := by
  cases cs with
  | nil => exact absurd rfl hne
  | cons c rest =>
      rw [List.all_cons, Bool.and_eq_true_iff] at h
      obtain ⟨hdigit, hblank⟩ := of_isUnitLetter h.1
      have hpush : Scan.push ⟨sum, .whole n⟩ c = some ⟨sum, .unit n none [c]⟩ := by
        simp [Scan.push, hdigit, hblank, h.1]
      rw [pushAll_cons hpush, pushAll_letters [c] h.2]
      simp

theorem letters_of_ofName? {name : String} {u : TimeUnit} (h : TimeUnit.ofName? name = some u) :
    name.toList ≠ [] ∧ name.toList.all isUnitLetter = true := by
  have hnames : ∀ u : TimeUnit, ∀ s ∈ u.names,
      s.toList ≠ [] ∧ s.toList.all isUnitLetter = true := by
    intro u
    cases u <;> decide
  have hcontains := List.find?_some h
  exact hnames u name (List.contains_iff_mem.mp hcontains)

theorem pushAll_amount (sum : Option Duration) {a : Amount} (ha : a.Proper) :
    pushAll Scan.push ⟨sum, .gap⟩ a.chars =
      some ⟨sum, .unit a.count none a.name.toList.reverse⟩ := by
  obtain ⟨hne, hletters⟩ := letters_of_ofName? ha.named
  rw [Amount.chars, pushAll_append (pushAll_digits sum ha.fits), pushAll_name hne hletters]

theorem leads_amounts {amounts : List Amount} {d : Duration} (hne : amounts ≠ [])
    (hproper : ∀ a ∈ amounts, a.Proper)
    (hsum : amounts.foldlM (fun d a => addUnits d a.count none a.name) (sum.getD zero) = some d) :
    Leads Scan.push ⟨sum, .gap⟩ (List.intercalate [' '] (amounts.map Amount.chars))
      fun s => s.close = some d := by
  induction amounts generalizing sum with
  | nil => exact absurd rfl hne
  | cons a rest ih =>
      -- An amount is added when a blank comes after its unit, or else at the end.
      have hfirst := pushAll_amount sum (hproper a List.mem_cons_self)
      rw [List.foldlM_cons, Option.bind_eq_bind, Option.bind_eq_some_iff] at hsum
      obtain ⟨d', hd', hrest⟩ := hsum
      have hfinish : Scan.finishUnit ⟨sum, .unit a.count none a.name.toList.reverse⟩ a.count none
          a.name.toList.reverse = some d' := by
        rw [Scan.finishUnit, List.reverse_reverse, String.ofList_toList]
        exact hd'
      cases rest with
      | nil =>
          obtain rfl : d' = d := Option.some.inj hrest
          rw [List.map_singleton, List.intercalate_singleton]
          exact ⟨_, hfirst, hfinish⟩
      | cons b rest =>
          have hblank : Scan.push ⟨sum, .unit a.count none a.name.toList.reverse⟩ ' ' =
              some ⟨some d', .gap⟩ := by
            show (Scan.finishUnit _ a.count none a.name.toList.reverse).bind _ = _
            rw [hfinish]
            rfl
          have hlater : Leads Scan.push ⟨some d', .gap⟩ _ fun s => s.close = some d :=
            ih (List.cons_ne_nil b rest)
              (fun a' ha' => hproper a' (List.mem_cons_of_mem a ha')) hrest
          rw [List.map_cons, List.map_cons, List.intercalate_cons_cons, List.append_assoc]
          exact Leads.append ⟨_, hfirst, rfl⟩ fun s' hs' => hs' ▸ Leads.cons hblank hlater

end Scanning

section Written

variable {d : Duration}

/-- A name with an `s` in the plural. -/
def inflected (count : Nat) (name : String) : String :=
  name ++ if count = 1 then "" else "s"

/-- What a duration amounts to in each unit, largest first. -/
def amounts (d : Duration) : List Amount :=
  let years := d.wholeSeconds / 31557600
  let inYear := d.wholeSeconds % 31557600
  let months := inYear / 2630016
  let inMonth := inYear % 2630016
  let days := inMonth / 86400
  let inDay := inMonth % 86400
  [⟨years, .year, inflected years "year"⟩,
    ⟨months, .month, inflected months "month"⟩,
    ⟨days, .day, inflected days "day"⟩,
    ⟨inDay / 3600, .hour, "h"⟩,
    ⟨inDay % 3600 / 60, .minute, "m"⟩,
    ⟨inDay % 60, .second, "s"⟩,
    ⟨d.fraction / 1000000, .millisecond, "ms"⟩,
    ⟨d.fraction / 1000 % 1000, .microsecond, "us"⟩,
    ⟨d.fraction % 1000, .nanosecond, "ns"⟩]

theorem secsOf_amounts (d : Duration) : secsOf d.amounts = d.wholeSeconds := by
  have hyear : TimeUnit.year.secs = 31557600 := rfl
  have hmonth : TimeUnit.month.secs = 2630016 := rfl
  have hday : TimeUnit.day.secs = 86400 := rfl
  have hhour : TimeUnit.hour.secs = 3600 := rfl
  have hminute : TimeUnit.minute.secs = 60 := rfl
  have hsecond : TimeUnit.second.secs = 1 := rfl
  have hbelow : TimeUnit.millisecond.secs = 0 ∧ TimeUnit.microsecond.secs = 0 ∧
      TimeUnit.nanosecond.secs = 0 := ⟨rfl, rfl, rfl⟩
  -- The factors have to be numerals for the arithmetic.
  simp only [amounts, secsOf_cons, secsOf_nil, hyear, hmonth, hday, hhour, hminute, hsecond, hbelow]
  generalize d.wholeSeconds = w
  omega

theorem nanosOf_amounts (d : Duration) : nanosOf d.amounts = d.fraction := by
  have hmilli : TimeUnit.millisecond.nanos = 1000000 := rfl
  have hmicro : TimeUnit.microsecond.nanos = 1000 := rfl
  have hnano : TimeUnit.nanosecond.nanos = 1 := rfl
  have hwhole : TimeUnit.year.nanos = 0 ∧ TimeUnit.month.nanos = 0 ∧ TimeUnit.day.nanos = 0 ∧
      TimeUnit.hour.nanos = 0 ∧ TimeUnit.minute.nanos = 0 ∧ TimeUnit.second.nanos = 0 :=
    ⟨rfl, rfl, rfl, rfl, rfl, rfl⟩
  simp only [amounts, nanosOf_cons, nanosOf_nil, hmilli, hmicro, hnano, hwhole]
  generalize d.fraction = f
  omega

theorem total_amounts (d : Duration) : total d.amounts = d.nanoseconds := by
  rw [total_eq, secsOf_amounts, nanosOf_amounts]
  exact Nat.div_add_mod' d.nanoseconds 1000000000

theorem ofName?_inflected (count : Nat) :
    TimeUnit.ofName? (inflected count "year") = some .year ∧
      TimeUnit.ofName? (inflected count "month") = some .month ∧
      TimeUnit.ofName? (inflected count "day") = some .day := by
  unfold inflected
  split <;> decide

theorem proper_of_whole {count : Nat} {unit : TimeUnit} {name : String}
    (hnamed : TimeUnit.ofName? name = some unit) (hwhole : unit.nanos = 0)
    (hfits : count ≤ Decimal.max64) : Amount.Proper ⟨count, unit, name⟩ where
  named := hnamed
  fits := hfits
  small := by
    show count * unit.nanos < 1000000000
    rw [hwhole, Nat.mul_zero]
    decide

theorem proper_of_part {count : Nat} {unit : TimeUnit} {name : String}
    (hnamed : TimeUnit.ofName? name = some unit) (hpart : unit.nanos ≤ 1000000)
    (hcount : count < 1000) : Amount.Proper ⟨count, unit, name⟩ where
  named := hnamed
  fits := by
    show count ≤ Decimal.max64
    unfold Decimal.max64
    omega
  small := by
    have hmul : count * unit.nanos ≤ 999 * 1000000 :=
      Nat.mul_le_mul (Nat.le_of_lt_succ hcount) hpart
    exact Nat.lt_of_le_of_lt hmul (by decide)

theorem proper_amounts (d : Duration) : ∀ a ∈ d.amounts, a.Proper := by
  have hseconds : d.wholeSeconds ≤ Decimal.max64 := d.fits
  have hfraction : d.fraction < 1000000000 := Nat.mod_lt _ (by decide)
  simp only [amounts, List.forall_mem_cons]
  generalize d.wholeSeconds = w at *
  generalize d.fraction = f at *
  unfold Decimal.max64 at hseconds
  have hfits : ∀ n, n ≤ w → n ≤ Decimal.max64 := by
    intro n hn
    unfold Decimal.max64
    omega
  refine ⟨proper_of_whole (ofName?_inflected _).1 rfl (hfits _ ?_),
    proper_of_whole (ofName?_inflected _).2.1 rfl (hfits _ ?_),
    proper_of_whole (ofName?_inflected _).2.2 rfl (hfits _ ?_),
    proper_of_whole (by decide) rfl (hfits _ ?_), proper_of_whole (by decide) rfl (hfits _ ?_),
    proper_of_whole (by decide) rfl (hfits _ ?_), proper_of_part (by decide) (by decide) ?_,
    proper_of_part (by decide) (by decide) ?_, proper_of_part (by decide) (by decide) ?_,
    fun a ha => absurd ha List.not_mem_nil⟩
  all_goals
    omega

def Amount.text (a : Amount) : String :=
  Decimal.render a.count ++ a.name

theorem Amount.toList_text (a : Amount) : a.text.toList = a.chars := by
  simp [text, chars, Decimal.render]

theorem counted_eq (unit : TimeUnit) (count : Nat) (name : String) :
    counted count name = (present [⟨count, unit, name⟩]).map Amount.text := by
  unfold counted
  split
  · rename_i hzero
    simp [present, hzero]
  · rename_i hsome
    simp [present, hsome, Amount.text]

theorem plural_eq (unit : TimeUnit) (count : Nat) (name : String) :
    plural count name = (present [⟨count, unit, inflected count name⟩]).map Amount.text := by
  rw [← counted_eq]
  unfold plural counted inflected
  split
  · rfl
  · rw [String.append_assoc]

theorem parts_eq (d : Duration) : d.parts = (present d.amounts).map Amount.text := by
  unfold parts
  dsimp only
  rw [plural_eq .year, plural_eq .month, plural_eq .day, counted_eq .hour, counted_eq .minute,
    counted_eq .second, counted_eq .millisecond, counted_eq .microsecond, counted_eq .nanosecond]
  simp only [present, ← List.map_append, ← List.filter_append]
  rfl

theorem parse_of_leads {text : String}
    (h : Leads Scan.push {} text.toList fun s => s.close = some d) : parse text = some d := by
  have hscan : (pushAll Scan.push {} text.toList).bind Scan.close = some d := by
    obtain ⟨s, hs, hclose⟩ := h
    rw [hs]
    exact hclose
  have hzero : text ≠ "0" := by
    rintro rfl
    cases hscan
  unfold parse
  rw [if_neg hzero]
  exact hscan

/-- Every duration is read from its text. -/
theorem parse_render (d : Duration) : parse d.render = some d := by
  have hparts := parts_eq d
  by_cases hnone : present d.amounts = []
  · have hzero : d.nanoseconds = 0 := by
      rw [← total_amounts, ← total_present, hnone]
      rfl
    have hrender : d.render = "0s" := by
      rw [hnone] at hparts
      simp [render, hparts]
    obtain ⟨nanoseconds, fits⟩ := d
    obtain rfl : nanoseconds = 0 := hzero
    rw [hrender]
    rfl
  · have hrender : d.render.toList =
        List.intercalate [' '] ((present d.amounts).map Amount.chars) := by
      unfold render
      split
      · rename_i hempty
        exact absurd (List.map_eq_nil_iff.mp (hparts.symm.trans hempty)) hnone
      · rw [String.toList_intercalate, hparts, List.map_map]
        exact congrArg _ (List.map_congr_left fun a _ => a.toList_text)
    have hproper : ∀ a ∈ present d.amounts, a.Proper :=
      fun a ha => proper_amounts d a (List.mem_filter.mp ha).1
    have htotal : zero.nanoseconds + total (present d.amounts) = d.nanoseconds := by
      rw [total_present, total_amounts]
      exact Nat.zero_add d.nanoseconds
    have hfits : (zero.nanoseconds + total (present d.amounts)) / 1000000000 ≤ Decimal.max64 := by
      rw [htotal]
      exact d.fits
    have hsum : (⟨_, hfits⟩ : Duration) = d := by
      obtain ⟨nanoseconds, fits⟩ := d
      simpa only [Duration.mk.injEq] using htotal
    apply parse_of_leads
    rw [hrender]
    exact leads_amounts hnone hproper ((foldlM_addUnits hproper hfits).trans (congrArg some hsum))

end Written

end Keyring.Duration
