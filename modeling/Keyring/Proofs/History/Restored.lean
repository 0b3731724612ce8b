import Keyring.Proofs.Group.RoundTrip
import Keyring.Proofs.History.Misfit
import Keyring.Proofs.Text.Position

namespace Keyring

open Text.Position

/-- The failure of a reader that refuses a text with a message. A position that the message ends in
is taken off it, as the place of the fault; line zero is no place. -/
inductive Tells (message : String) : Failure → Prop
  | whole (h : ∀ before line, ¬ EndsAt message before line) : Tells message (.malformed message false)
  | cut {before : String} {line : Nat} (h : EndsAt message before line) :
      Tells message (.malformed before (line ≠ 0))

theorem tells_refusal (message : String) : Tells message (ReadError.refusal false message) := by
  rw [ReadError.refusal]
  cases hsplit : split? message with
  | none => exact .whole ((split?_eq_none_iff message).mp hsplit)
  | some parts => exact .cut ((split?_eq_some_iff message parts.1 parts.2).mp hsplit)

theorem Tells.eq_of_not_endsAt {message : String} {e : Failure} (h : Tells message e)
    (hnot : ∀ before line, ¬ EndsAt message before line) : e = .malformed message false := by
  cases h with
  | whole => rfl
  | cut hends => exact absurd hends (hnot _ _)

/-- The number that ends what is said of a key out of order is a time and no column. -/
theorem keyOutOfOrder_not_endsAt (id : String) (time latest : UInt64) (before : String)
    (line : Nat) : ¬ EndsAt (Failure.keyOutOfOrder id time latest).message before line := by
  have hmessage : (Failure.keyOutOfOrder id time latest).message =
      "Key " ++ id ++ " at time " ++ Decimal.render time.toNat ++
        " is older than latest key time " ++ Decimal.render latest.toNat :=
    rfl
  generalize "Key " ++ id ++ " at time " ++ Decimal.render time.toNat = front at hmessage
  have hgap : " is older than latest key time ".toList =
      " is older than latest key time".toList ++ [' '] := by
    decide
  have htext : (Failure.keyOutOfOrder id time latest).message.toList =
      (front.toList ++ " is older than latest key time".toList) ++
        ' ' :: Decimal.digits latest.toNat := by
    rw [hmessage, String.toList_append, String.toList_append, hgap, Decimal.toList_render,
      List.append_assoc, List.append_assoc, List.append_assoc, List.singleton_append]
  refine not_endsAt htext (Decimal.all_isDigit_digits latest.toNat) ?_ before line
  rw [List.getLast?_append]
  exact fun heq => absurd (Option.some.inj heq) (by decide)

namespace History

variable {text : String} {keys : List Key} {h : History}

theorem restore_of_decode (hdecode : Page.decode text = .ok keys) :
    restore text = (ofKeys keys).mapError fun e => ReadError.refusal false e.message := by
  obtain ⟨hread, hcomplete⟩ := Json.decode_eq_ok_iff.mp hdecode
  have hofJson : ofJson (Json.read text).value =
      (ofKeys keys).mapError ReadError.refused := by
    rw [ofJson, hread]
    cases hkeys : ofKeys keys <;> simp [Except.mapError, hkeys, bind, Except.bind]
  rw [restore, Json.decode, hofJson, hcomplete]
  cases ofKeys keys <;> rfl

theorem exists_decode_of_restore (hrestore : restore text = .ok h) :
    ∃ keys, Page.decode text = .ok keys ∧ ofKeys keys = .ok h := by
  obtain ⟨hread, hcomplete⟩ := Json.decode_eq_ok_iff.mp hrestore
  obtain ⟨keys, hkeys, hbuilt⟩ := Json.exists_of_bind_eq_ok hread
  refine ⟨keys, Json.decode_eq_ok_iff.mpr ⟨hkeys, hcomplete⟩, ?_⟩
  split at hbuilt
  · rename_i h' heq
    rw [heq, Except.ok.inj hbuilt]
  · exact nomatch hbuilt

theorem ofKeys_eq_ok_iff : ofKeys keys = .ok h ↔ Chronicle keys ∧ h = empty.extend keys := by
  constructor
  · intro hbuilt
    have hc : Chronicle keys := by
      obtain ⟨hsound, hkeys⟩ := Sound.empty.of_append_eq_ok hbuilt
      have hchronicle := hsound.chronicle
      rwa [hkeys] at hchronicle
    rw [ofKeys_eq hc] at hbuilt
    exact ⟨hc, (Except.ok.inj hbuilt).symm⟩
  · rintro ⟨hc, rfl⟩
    exact ofKeys_eq hc

theorem restore_eq_ok_iff : restore text = .ok h ↔
    ∃ keys, Page.decode text = .ok keys ∧ Chronicle keys ∧ h = empty.extend keys := by
  constructor
  · intro hrestore
    obtain ⟨keys, hdecode, hbuilt⟩ := exists_decode_of_restore hrestore
    exact ⟨keys, hdecode, ofKeys_eq_ok_iff.mp hbuilt⟩
  · rintro ⟨keys, hdecode, hc, rfl⟩
    rw [restore_of_decode hdecode, ofKeys_eq hc]
    rfl

theorem restore_save (hc : Chronicle keys) :
    restore (empty.extend keys).save = .ok (empty.extend keys) :=
  restore_eq_ok_iff.mpr ⟨keys, Page.decode_listToJson keys, hc, rfl⟩

/-- What comes of a text that is to be restored, in terms of the list of keys that it is read as. -/
structure Restored (text : String) : Prop where
  accepted : (∃ h, restore text = .ok h) ↔ ∃ keys, Page.decode text = .ok keys ∧ Chronicle keys
  held : ∀ h, restore text = .ok h → h.Sound ∧ Page.decode text = .ok h.keys
  again : ∀ h, restore text = .ok h →
    ∃ h', restore h.save = .ok h' ∧ h' = h ∧ h'.save = h.save
  refused : ∀ keys, Page.decode text = .ok keys → ¬ Chronicle keys →
    ∃ position e failure, FirstMisfit [] keys position e ∧ restore text = .error failure ∧
      Tells e.message failure ∧
      ∀ id time latest, e = .keyOutOfOrder id time latest → failure = .malformed e.message false

theorem restores_exactly (text : String) : Restored text where
  accepted := by
    constructor
    · rintro ⟨h, hrestore⟩
      obtain ⟨keys, hdecode, hc, -⟩ := restore_eq_ok_iff.mp hrestore
      exact ⟨keys, hdecode, hc⟩
    · rintro ⟨keys, hdecode, hc⟩
      exact ⟨_, restore_eq_ok_iff.mpr ⟨keys, hdecode, hc, rfl⟩⟩
  held h hrestore := by
    obtain ⟨keys, hdecode, hc, rfl⟩ := restore_eq_ok_iff.mp hrestore
    exact ⟨Sound.ofKeys hc, hdecode⟩
  again h hrestore := by
    obtain ⟨keys, -, hc, rfl⟩ := restore_eq_ok_iff.mp hrestore
    exact ⟨_, restore_save hc, rfl, rfl⟩
  refused keys hdecode hnot := by
    obtain ⟨position, e, hfirst, hbuilt⟩ := Sound.empty.append_of_not_extends
      (mt (extends_iff_chronicle Chronicle.nil).mp hnot)
    refine ⟨position, e, _, hfirst, ?_, tells_refusal e.message, ?_⟩
    · rw [restore_of_decode hdecode, ofKeys, hbuilt]
      rfl
    · rintro id time latest rfl
      exact (tells_refusal _).eq_of_not_endsAt (keyOutOfOrder_not_endsAt id time latest)

/-- Records written as arrays, and an escape that is not needed. -/
example : Page.decode "[[\"\\u0061\",\"\",\"\",\"\",5], [\"b\",\"\",\"\",\"\",7]]" =
    .ok [⟨"a", "", "", "", 5⟩, ⟨"b", "", "", "", 7⟩] := by
  rfl

/-- A key whose id ends like a position. -/
def placedKey : Key :=
  ⟨"x at line 3 column 4 at line 0 column 5", "secret", "private", "public", 1⟩

/-- The message about a second key of one id loses the end of the id. -/
theorem restore_cut :
    Page.decode (Key.listToJson [placedKey, placedKey]).render = .ok [placedKey, placedKey] ∧
      ¬ Chronicle [placedKey, placedKey] ∧
      FirstMisfit [] [placedKey, placedKey] 1 (.duplicateKey placedKey.id) ∧
      restore (Key.listToJson [placedKey, placedKey]).render =
        .error (.malformed "Duplicate group key id: x at line 3 column 4" false) ∧
      ∀ placed, restore (Key.listToJson [placedKey, placedKey]).render ≠
        .error (.malformed (Failure.duplicateKey placedKey.id).message placed) := by
  have hdecode := Page.decode_listToJson [placedKey, placedKey]
  have hnot : ¬ Chronicle [placedKey, placedKey] := fun hc => absurd hc.distinct (by decide)
  have hfirst : FirstMisfit [] [placedKey, placedKey] 1 (.duplicateKey placedKey.id) :=
    .tail (not_misfit (by simp) (by simp)) (.head (.repeated (by simp)))
  have hrestore : restore (Key.listToJson [placedKey, placedKey]).render =
      .error (.malformed "Duplicate group key id: x at line 3 column 4" false) := by
    obtain ⟨position, e, hfirst', hbuilt⟩ := Sound.empty.append_of_not_extends
      (mt (extends_iff_chronicle Chronicle.nil).mp hnot)
    obtain ⟨-, rfl⟩ := hfirst.unique hfirst'
    rw [restore_of_decode hdecode, ofKeys, hbuilt]
    rfl
  refine ⟨hdecode, hnot, hfirst, hrestore, fun placed hwhole => ?_⟩
  rw [hrestore] at hwhole
  have hmessage : "Duplicate group key id: x at line 3 column 4" =
      (Failure.duplicateKey placedKey.id).message :=
    (Failure.malformed.inj (Except.error.inj hwhole)).1
  exact absurd hmessage (by decide)

end History

end Keyring
