import Keyring.Group.Record
import Keyring.Proofs.History.Sound
import Keyring.Proofs.Key.RoundTrip

namespace Keyring

theorem Json.asWord32_natural (n : UInt32) : (Json.natural n.toNat).asWord32 = .ok n := by
  have hle : n.toNat ≤ Decimal.max32 := Nat.le_of_lt_succ n.toNat_lt
  simp [Json.asWord32, Json.asNat, hle, Except.map]

theorem History.ofJson_toJson {h : History} (hs : h.Sound) :
    ofJson h.toJson = .ok (empty.extend h.keys) := by
  rw [ofJson, toJson, Key.listOfJson_listToJson]
  simp only [bind, Except.bind, ofKeys_eq hs.chronicle]

namespace Group.Record

theorem plain_toJson (r : Record) : r.toJson.plain = true := by
  have hkeys : r.history.toJson.plain = true := Key.plain_listToJson r.history.keys
  cases hparent : r.parentGroupId with
  | none => simp [toJson, hparent, Json.record, Json.plain, Json.plainMembers, hkeys]
  | some id => simp [toJson, hparent, Json.record, Json.plain, Json.plainMembers, hkeys]

/-- The record as it is read back: its index is built anew. -/
def reindexed (r : Record) : Record :=
  { r with history := History.empty.extend r.history.keys }

theorem ofJson_toJson {r : Record} (hs : r.history.Sound) :
    ofJson r.toJson = (some r.reindexed.history, .ok r.reindexed) := by
  have hentries : r.toJson.entries false fieldNames = ⟨[
      ("group_id", .text r.groupId),
      ("parent_group_id", r.parentGroupId.elim .null .text),
      ("rank", .natural r.rank.toNat), ("key_update", .bool r.keyUpdate),
      ("create_time", .natural r.createTime.toNat), ("joined_time", .natural r.joinedTime.toNat),
      ("keys", r.history.toJson)], true⟩ := by
    unfold toJson
    cases r.parentGroupId <;> rfl
  have hparent : (r.parentGroupId.elim Json.null Json.text).asOptionalText =
      .ok r.parentGroupId := by
    cases r.parentGroupId <;> rfl
  have hfeed : Json.feed Draft.take {} (r.toJson.entries false fieldNames).fields =
      (⟨some r.groupId, r.parentGroupId, some r.rank, some r.keyUpdate, some r.createTime,
        some r.joinedTime, some r.reindexed.history⟩, .ok ()) := by
    rw [hentries]
    simp only [Json.feed, Draft.take, hparent, Json.asWord32_natural, Key.asWord64_natural,
      History.ofJson_toJson hs]
    rfl
  rw [ofJson, hfeed, hentries]
  rfl

theorem restore_save {r : Record} (hs : r.history.Sound) :
    restore r.save = (some r.reindexed.history, .ok r.reindexed) := by
  simp only [restore, save, Json.read_render (plain_toJson r), ofJson_toJson hs, if_true]

end Group.Record

section Restored

theorem Json.exists_of_bind_eq_ok {ε α β : Type} {read : Except ε α} {f : α → Except ε β} {b : β}
    (h : (do let a ← read; f a) = .ok b) : ∃ a, read = .ok a ∧ f a = .ok b := by
  cases read with
  | error e => exact nomatch h
  | ok a => exact ⟨a, rfl, h⟩

theorem Json.feed_induction {σ ε α : Type} {step : σ → α → Except ε σ} {P : σ → Prop}
    (hstep : ∀ s a s', P s → step s a = .ok s' → P s') {s : σ} (hs : P s) (items : List α) :
    P (feed step s items).1 := by
  induction items generalizing s with
  | nil => exact hs
  | cons a rest ih =>
      rw [feed]
      split
      · rename_i s' hs'
        exact ih (hstep s a s' hs hs')
      · exact hs

theorem History.sound_of_ofJson {j : Json} {h : History} (hread : ofJson j = .ok h) : h.Sound := by
  obtain ⟨keys, -, hkeys⟩ := Json.exists_of_bind_eq_ok hread
  split at hkeys
  · rename_i h' happend
    obtain rfl := Except.ok.inj hkeys
    exact (Sound.empty.of_append_eq_ok happend).1
  · exact nomatch hkeys

namespace Group.Record

/-- Whether the history of a draft is sound, if there is one yet. -/
def Draft.Sound (d : Draft) : Prop :=
  ∀ h, d.history = some h → h.Sound

theorem Draft.sound_empty : Draft.Sound {} := by
  intro h hh
  exact nomatch (hh : none = some h)

theorem Draft.Sound.take {d d' : Draft} {item : String × Json} (hs : d.Sound)
    (htake : d.take item = .ok d') : d'.Sound := by
  unfold Draft.take at htake
  split at htake
  case h_7 =>
    obtain ⟨history, hread, hd'⟩ := Json.exists_of_bind_eq_ok htake
    obtain rfl := Except.ok.inj hd'
    intro h hh
    obtain rfl := Option.some.inj hh
    exact History.sound_of_ofJson hread
  case h_8 =>
    obtain rfl := Except.ok.inj htake
    exact hs
  all_goals
    obtain ⟨_, -, hd'⟩ := Json.exists_of_bind_eq_ok htake
    obtain rfl := Except.ok.inj hd'
    exact hs

theorem Draft.history_of_complete {d : Draft} {r : Record} (h : d.complete? = some r) :
    d.history = some r.history := by
  simp only [complete?, Option.bind_eq_bind, Option.bind_eq_some_iff, Option.pure_def,
    Option.some.injEq] at h
  obtain ⟨_, -, _, -, _, -, _, -, _, -, _, hhistory, rfl⟩ := h
  exact hhistory

theorem sound_of_restore {text : String} {r : Record} (h : (restore text).2 = .ok r) :
    r.history.Sound := by
  have hfeed : (Json.feed Draft.take {} ((Json.read text).value.entries false fieldNames).fields
      ).1.Sound :=
    Json.feed_induction (fun _ _ _ => Draft.Sound.take) Draft.sound_empty _
  have hofJson : (ofJson (Json.read text).value).2 = .ok r := by
    simp only [restore] at h
    split at h
    · exact nomatch h
    · split at h
      · rename_i hread _
        rw [hread, Except.ok.inj h]
      · exact nomatch h
  simp only [ofJson] at hofJson
  obtain ⟨-, -, hwhole⟩ := Json.exists_of_bind_eq_ok hofJson
  split at hwhole
  · split at hwhole
    · rename_i r' hcomplete
      obtain rfl := Except.ok.inj hwhole
      exact hfeed _ (Draft.history_of_complete hcomplete)
    · exact nomatch hwhole
  · exact nomatch hwhole

end Group.Record

end Restored

end Keyring
