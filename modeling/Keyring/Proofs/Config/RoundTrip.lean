import Keyring.Config.File
import Keyring.Proofs.Duration.RoundTrip
import Keyring.Proofs.Toml.RoundTrip

namespace Keyring.Config

open Toml

section Sections

/-- The names of the settings in each section. -/
def settingNames : List (List String) := [
  ["page_size", "fetch_batch_threshold", "page_boundary"],
  ["max_rounds", "finish_timeout"],
  ["invite", "join_requests", "rotation"],
  ["namespace"],
  ["level", "json_format", "with_timestamp", "with_target"]]

theorem names_mem_settingNames {c : Config} {s : Section} (hs : s ∈ c.sections) :
    s.2.map Prod.fst ∈ settingNames := by
  have hnames : c.sections.map (fun s => s.2.map Prod.fst) = settingNames := rfl
  rw [← hnames]
  exact List.mem_map_of_mem hs

theorem wellNamed_sections (c : Config) : WellNamed c.sections where
  bare := by
    simp only [sections, List.forall_mem_cons]
    exact ⟨by decide, by decide, by decide, by decide, by decide, by simp⟩
  apart := by
    show ["keys", "rotation", "ranks", "store", "logging"].Nodup
    decide
  bareKeys := by
    intro s hs e he
    have hbare : ∀ names ∈ settingNames, ∀ name ∈ names, isBareKey name = true := by decide
    exact hbare _ (names_mem_settingNames hs) _ (List.mem_map_of_mem he)
  apartKeys := by
    intro s hs
    have hapart : ∀ names ∈ settingNames, names.Nodup := by decide
    exact hapart _ (names_mem_settingNames hs)

theorem writable_natural {n : Nat} : (Plain.natural n).Writable ↔ n ≤ 9223372036854775807 := by
  constructor
  · rintro ⟨cs, hcs⟩
    exact (Plain.chars?_natural hcs).1
  · intro h
    exact ⟨Decimal.digits n, if_pos h⟩

theorem toNat_word32_le (n : UInt32) : n.toNat ≤ 9223372036854775807 := by
  have := n.toNat_lt
  omega

theorem writable_text (s : String) : (Plain.text s).Writable :=
  ⟨_, rfl⟩

theorem writable_bool (b : Bool) : (Plain.bool b).Writable := by
  cases b <;> exact ⟨_, rfl⟩

/-- Only the two numbers of 64 bits can be too large for a file. -/
theorem exists_document?_sections_iff (c : Config) :
    (∃ text, document? c.sections = some text) ↔
      c.keys.pageSize.toNat ≤ 9223372036854775807 ∧
        c.keys.fetchThreshold.toNat ≤ 9223372036854775807 := by
  rw [exists_document_iff]
  simp only [sections, List.forall_mem_cons, writable_natural, writable_text, writable_bool,
    toNat_word32_le]
  simp

end Sections

section Reading

theorem word64?_value (n : UInt64) : tomlForm.word64? (Plain.natural n.toNat).value = some n := by
  have hle : n.toNat ≤ Decimal.max64 := Nat.le_of_lt_succ n.toNat_lt
  show (if n.toNat ≤ Decimal.max64 then some n.toNat.toUInt64 else none) = some n
  rw [if_pos hle]
  simp

theorem word32?_value (n : UInt32) : tomlForm.word32? (Plain.natural n.toNat).value = some n := by
  have hle : n.toNat ≤ Decimal.max32 := Nat.le_of_lt_succ n.toNat_lt
  show (if n.toNat ≤ Decimal.max32 then some n.toNat.toUInt32 else none) = some n
  rw [if_pos hle]
  simp

theorem boundary?_value (b : Page.Boundary) :
    tomlForm.boundary? (Plain.text b.name).value = some b := by
  cases b <;> rfl

theorem duration?_value (d : Duration) : tomlForm.duration? (Plain.text d.render).value = some d :=
  Duration.parse_render d

variable {ν α : Type} {fields : List (String × ν)} {name other : String} {v : ν}
  {reader : ν → Option α} {fallback : α}

theorem part_cons_self : part ((name, v) :: fields) name reader fallback = reader v := by
  simp only [part, List.lookup_cons_self]

theorem part_cons_of_ne (h : name ≠ other) :
    part ((other, v) :: fields) name reader fallback = part fields name reader fallback := by
  simp only [part, List.lookup_cons, beq_eq_false_iff_ne.mpr h]

theorem fields?_table (names : List String) (origin : Origin) (es : Entries) :
    tomlForm.fields? names (.table origin es) = some es :=
  rfl

theorem text?_value (s : String) : tomlForm.text? (Plain.text s).value = some s :=
  rfl

theorem bool?_value (b : Bool) : tomlForm.bool? (Plain.bool b).value = some b :=
  rfl

theorem paging?_entries (k : Paging) :
    tomlForm.paging? (.table .header [
      ("page_size", (Plain.natural k.pageSize.toNat).value),
      ("fetch_batch_threshold", (Plain.natural k.fetchThreshold.toNat).value),
      ("page_boundary", (Plain.text k.boundary.name).value)]) = some k := by
  simp (disch := decide) [Form.paging?, fields?_table, part_cons_self, part_cons_of_ne,
    word64?_value, boundary?_value]

theorem finishLimits?_entries (k : FinishLimits) :
    tomlForm.finishLimits? (.table .header [
      ("max_rounds", (Plain.natural k.maxRounds.toNat).value),
      ("finish_timeout", (Plain.text k.timeout.render).value)]) = some k := by
  simp (disch := decide) [Form.finishLimits?, fields?_table, part_cons_self, part_cons_of_ne,
    word32?_value, duration?_value]

theorem rankLimits?_entries (k : RankLimits) :
    tomlForm.rankLimits? (.table .header [
      ("invite", (Plain.natural k.invite.toNat).value),
      ("join_requests", (Plain.natural k.joinRequests.toNat).value),
      ("rotation", (Plain.natural k.rotation.toNat).value)]) = some k := by
  simp (disch := decide) [Form.rankLimits?, fields?_table, part_cons_self, part_cons_of_ne,
    word32?_value]

theorem storeSettings?_entries (k : StoreSettings) :
    tomlForm.storeSettings? (.table .header [("namespace", (Plain.text k.space).value)]) =
      some k := by
  simp [Form.storeSettings?, fields?_table, part_cons_self, text?_value]

theorem logSettings?_entries (k : LogSettings) :
    tomlForm.logSettings? (.table .header [
      ("level", (Plain.text k.level).value),
      ("json_format", (Plain.bool k.asJson).value),
      ("with_timestamp", (Plain.bool k.withTimestamp).value),
      ("with_target", (Plain.bool k.withTarget).value)]) = some k := by
  simp (disch := decide) [Form.logSettings?, fields?_table, part_cons_self, part_cons_of_ne,
    text?_value, bool?_value]

theorem config?_sections (c : Config) :
    tomlForm.config? (.table .header (c.sections.map tableOf)) = some c := by
  simp (disch := decide) [Form.config?, sections, tableOf, valueOfPair, fields?_table,
    part_cons_self, part_cons_of_ne, paging?_entries, finishLimits?_entries, rankLimits?_entries,
    storeSettings?_entries, logSettings?_entries]

end Reading

/-- A valid configuration comes back from its file. -/
theorem load_save (c : Config) (file : Content) :
    (c.validate = .ok () → c.keys.pageSize.toNat ≤ 9223372036854775807 →
      c.keys.fetchThreshold.toNat ≤ 9223372036854775807 →
        ∃ text, c.save file = (some text, .ok ()) ∧ load (some text) = .ok c) ∧
    (9223372036854775807 < c.keys.pageSize.toNat ∨
      9223372036854775807 < c.keys.fetchThreshold.toNat →
        ∃ detail, c.save file = (file, .error (.unwritable detail))) := by
  constructor
  · intro hvalid hpage hfetch
    obtain ⟨text, htext⟩ := (exists_document?_sections_iff c).mpr ⟨hpage, hfetch⟩
    have hread : ofToml text = .ok c := by
      simp [ofToml, read?_document (wellNamed_sections c) htext, config?_sections]
    have hbytes : String.fromUTF8? text.toUTF8 = some text := dif_pos text.isValidUTF8
    have hcontent : textOf (some text.toUTF8) = .ok text := by
      simp only [textOf, hbytes]
    refine ⟨text.toUTF8, by simp [save, toToml, htext], ?_⟩
    simp only [load, hcontent, hread, hvalid, bind, Except.bind, pure, Except.pure]
  · intro hlarge
    have hnone : document? c.sections = none := by
      rw [Option.eq_none_iff_forall_ne_some]
      intro text htext
      have := (exists_document?_sections_iff c).mp ⟨text, htext⟩
      omega
    exact ⟨_, by simp [save, toToml, hnone]; rfl⟩

/-- A space with both quotes, a line break, a backslash and a control character. -/
def quotedSpace : Config where
  keys := { pageSize := 9223372036854775807, boundary := .inclusive }
  rotation := { maxRounds := 4294967295, timeout := ⟨31557600000000001, by decide⟩ }
  store := { space := "it's \"key\"\n\\ring\x7f" }

theorem load_save_quotedSpace :
    (∃ text, quotedSpace.save none = (some text, .ok ()) ∧ load (some text) = .ok quotedSpace) ∧
      ∃ detail, Config.save { keys := { fetchThreshold := 9223372036854775808 } } (some "".toUTF8) =
        (some "".toUTF8, .error (.unwritable detail)) :=
  ⟨(load_save quotedSpace none).1 rfl (by decide) (by decide),
    (load_save { keys := { fetchThreshold := 9223372036854775808 } } (some "".toUTF8)).2
      (.inr (by decide))⟩

end Keyring.Config
