import Keyring.Group.Basic
import Keyring.Proofs.Group.RoundTrip
import Keyring.Proofs.Secrecy.Key

namespace Keyring

section Histories

structure History.Resembles (h h' : History) : Prop where
  sound : h.Sound
  sound' : h'.Sound
  keys : Key.ListResembles h.keys h'.keys

namespace History.Resembles

variable {h h' : History} {batch batch' : List Key}

theorem empty : Resembles empty empty :=
  ⟨.empty, .empty, .nil⟩

theorem size_eq (hh : h.Resembles h') : h.size = h'.size :=
  hh.keys.length_eq

theorem contains_eq (hh : h.Resembles h') (id : String) : h.contains id = h'.contains id := by
  apply Bool.eq_iff_iff.mpr
  rw [hh.sound.contains_iff, hh.sound'.contains_iff, hh.keys.ids_eq]

theorem filter_unknown (hh : h.Resembles h') (hbatch : Key.ListResembles batch batch') :
    Key.ListResembles (batch.filter fun k => !h.contains k.id)
      (batch'.filter fun k => !h'.contains k.id) := by
  apply List.rel_filter _ hbatch
  intro k k' hk
  dsimp only
  rw [hh.contains_eq, hk.id_eq]

theorem get? (hh : h.Resembles h') (id : String) :
    Option.Rel Key.Resembles (h.get? id) (h'.get? id) := by
  rw [hh.sound.get?_eq_find?, hh.sound'.get?_eq_find?]
  exact hh.keys.rel_find? fun _ _ hk => by rw [hk.id_eq]

theorem latest (hh : h.Resembles h') : Agree Key.Resembles h.latest h'.latest := by
  have hlast := hh.keys.rel_getLast?
  unfold History.latest
  generalize h.keys.getLast? = last, h'.keys.getLast? = last' at hlast ⊢
  cases hlast with
  | none => exact .error _
  | some hk => exact .ok hk

theorem cursor_eq (hh : h.Resembles h') : h.cursor = h'.cursor := by
  have hlatest := hh.latest
  unfold History.cursor
  generalize h.latest = latest, h'.latest = latest' at hlatest ⊢
  cases hlatest with
  | ok hk => exact congrArg Except.ok hk.cursor_eq
  | error e => rfl

theorem check_eq (hh : h.Resembles h') (hbatch : Key.ListResembles batch batch')
    (seen : Std.HashSet String) (before : Option UInt64) :
    h.check seen before batch = h'.check seen before batch' := by
  induction hbatch generalizing seen before with
  | nil => rfl
  | cons hfirst _ ih =>
      unfold check
      rw [hh.contains_eq, hfirst.id_eq, hfirst.time_eq]
      simp only [ih]

theorem append (hh : h.Resembles h') (hbatch : Key.ListResembles batch batch') :
    Agree Resembles (h.append batch) (h'.append batch') := by
  -- The two checks have the same result, and a batch that passes is taken over as it is.
  have hcheck : h.check ∅ (h.keys.getLast?.map Key.time) batch =
      h'.check ∅ (h'.keys.getLast?.map Key.time) batch' := by
    have hbefore : h.keys.getLast?.map Key.time = h'.keys.getLast?.map Key.time := by
      rw [← List.getLast?_map, ← List.getLast?_map, hh.keys.map_eq fun _ _ hk => hk.time_eq]
    rw [hbefore, hh.check_eq hbatch]
  have happend (happened : h.check ∅ (h.keys.getLast?.map Key.time) batch = .ok ()) :
      h.append batch = .ok (h.extend batch) := by
    rw [History.append, happened]
    rfl
  have happend' (happened : h'.check ∅ (h'.keys.getLast?.map Key.time) batch' = .ok ()) :
      h'.append batch' = .ok (h'.extend batch') := by
    rw [History.append, happened]
    rfl
  cases hchecked : h'.check ∅ (h'.keys.getLast?.map Key.time) batch' with
  | error e =>
      rw [History.append, History.append, hcheck, hchecked]
      exact .error e
  | ok u =>
      have hdone := happend (hcheck.trans hchecked)
      have hdone' := happend' hchecked
      rw [hdone, hdone']
      exact .ok ⟨(hh.sound.of_append_eq_ok hdone).1, (hh.sound'.of_append_eq_ok hdone').1,
        List.rel_append hh.keys hbatch⟩

end History.Resembles

end Histories

namespace Group

/-- Two records that differ in nothing but the material of the keys. -/
inductive Record.Resembles : Record → Record → Prop where
  | mk (groupId : String) (parentGroupId : Option String) (rank : UInt32) (keyUpdate : Bool)
      (createTime joinedTime : UInt64) {h h' : History} (hh : h.Resembles h') :
      Resembles ⟨groupId, parentGroupId, rank, keyUpdate, createTime, joinedTime, h⟩
        ⟨groupId, parentGroupId, rank, keyUpdate, createTime, joinedTime, h'⟩

namespace Record

variable {r r' : Record}

theorem Resembles.groupId_eq (h : r.Resembles r') : r.groupId = r'.groupId := by
  cases h with
  | mk => rfl

theorem Resembles.history (h : r.Resembles r') : r.history.Resembles r'.history := by
  cases h with
  | mk _ _ _ _ _ _ hh => exact hh

theorem Resembles.make {h h' : History} (hh : h.Resembles h') (groupId : String) (rank : UInt32) :
    (make groupId rank h).Resembles (make groupId rank h') := by
  have hstart : h.keys.head?.map Key.time = h'.keys.head?.map Key.time := by
    rw [← List.head?_map, ← List.head?_map, hh.keys.map_eq fun _ _ hk => hk.time_eq]
  rw [Record.make, Record.make, hstart]
  exact .mk _ _ _ _ _ _ hh

theorem Resembles.save_size (h : r.Resembles r') : r.save.utf8ByteSize = r'.save.utf8ByteSize := by
  obtain ⟨groupId, parentGroupId, rank, keyUpdate, createTime, joinedTime, hh⟩ := h
  apply Json.size_record
  refine .cons ⟨rfl, rfl⟩ (.cons ⟨rfl, rfl⟩ (.cons ⟨rfl, rfl⟩ (.cons ⟨rfl, rfl⟩
    (.cons ⟨rfl, rfl⟩ (.cons ⟨rfl, rfl⟩ (.cons ⟨rfl, ?_⟩ .nil))))))
  exact hh.keys.size_listToJson

section Reading

inductive FieldResembles : String → Json → Json → Prop where
  | same (name : String) (j : Json) : FieldResembles name j j
  | keys {items items' : List Json} (h : List.Forall₂ Key.FormResembles items items') :
      FieldResembles "keys" (.array items) (.array items')

/-- Two texts that read as the same record, but for key material. -/
structure TextResembles (text text' : String) : Prop where
  fields : Assoc.Rel FieldResembles ((Json.read text).value.entries false fieldNames).fields
    ((Json.read text').value.entries false fieldNames).fields
  whole_eq : ((Json.read text).value.entries false fieldNames).whole =
    ((Json.read text').value.entries false fieldNames).whole
  complete_eq : (Json.read text).complete = (Json.read text').complete

theorem Resembles.save (h : r.Resembles r') : TextResembles r.save r'.save := by
  rw [Record.save, Record.save]
  obtain ⟨groupId, parentGroupId, rank, keyUpdate, createTime, joinedTime, hh⟩ := h
  constructor
  · rw [Json.read_render (plain_toJson _), Json.read_render (plain_toJson _)]
    refine .cons ⟨rfl, .same _ _⟩ (.cons ⟨rfl, .same _ _⟩ (.cons ⟨rfl, .same _ _⟩
      (.cons ⟨rfl, .same _ _⟩ (.cons ⟨rfl, .same _ _⟩ (.cons ⟨rfl, .same _ _⟩
        (.cons ⟨rfl, .keys ?_⟩ .nil))))))
    rw [List.forall₂_map_left_iff, List.forall₂_map_right_iff]
    exact hh.keys.imp fun _ _ => Key.Resembles.toJson
  · rw [Json.read_render (plain_toJson _), Json.read_render (plain_toJson _)]
    rfl
  · rw [Json.read_render (plain_toJson _), Json.read_render (plain_toJson _)]

inductive Draft.Resembles : Draft → Draft → Prop where
  | mk (groupId parentGroupId : Option String) (rank : Option UInt32) (keyUpdate : Option Bool)
      (createTime joinedTime : Option UInt64) {h h' : Option History}
      (hh : Option.Rel History.Resembles h h') :
      Resembles ⟨groupId, parentGroupId, rank, keyUpdate, createTime, joinedTime, h⟩
        ⟨groupId, parentGroupId, rank, keyUpdate, createTime, joinedTime, h'⟩

theorem agree_ofKeys {keys keys' : List Key} (h : Key.ListResembles keys keys') :
    Agree History.Resembles (History.ofKeys keys) (History.ofKeys keys') :=
  History.Resembles.empty.append h

theorem agree_history {items items' : List Json} (h : List.Forall₂ Key.FormResembles items items') :
    Agree History.Resembles (History.ofJson (.array items)) (History.ofJson (.array items')) := by
  apply (Key.agree_listOfJson h).bind
  intro keys keys' hkeys
  have hof := agree_ofKeys hkeys
  generalize History.ofKeys keys = h, History.ofKeys keys' = h' at hof ⊢
  cases hof with
  | ok hh => exact .ok hh
  | error e => exact .error _

theorem Draft.Resembles.history {d d' : Draft} (h : d.Resembles d') :
    Option.Rel History.Resembles d.history d'.history := by
  cases h with
  | mk _ _ _ _ _ _ hh => exact hh

theorem agree_ofJson (j : Json) :
    Agree History.Resembles (History.ofJson j) (History.ofJson j) := by
  cases hread : History.ofJson j with
  | error e => exact .error e
  | ok h => exact .ok ⟨History.sound_of_ofJson hread, History.sound_of_ofJson hread, .refl _⟩

theorem Draft.Resembles.take {d d' : Draft} (hd : d.Resembles d') {name : String} {j j' : Json}
    (hj : FieldResembles name j j') : Agree Resembles (d.take (name, j)) (d'.take (name, j')) := by
  obtain ⟨groupId, parentGroupId, rank, keyUpdate, createTime, joinedTime, hh⟩ := hd
  cases hj with
  | keys hitems => exact (agree_history hitems).bind fun _ _ hh => .ok (.mk _ _ _ _ _ _ (.some hh))
  | same =>
      have hsame {α : Type} (read : Except ReadError α) : Agree Eq read read :=
        .refl (fun _ => rfl) _
      unfold Draft.take
      split
      -- The keys are read into histories, which resemble themselves only because they are sound.
      case h_7 =>
        rename_i heq
        cases heq
        exact (agree_ofJson j).bind fun _ _ hread => .ok (.mk _ _ _ _ _ _ (.some hread))
      case h_8 => exact .ok (.mk _ _ _ _ _ _ hh)
      all_goals
        rename_i heq
        cases heq
        refine (hsame _).bind fun _ _ hread => ?_
        subst hread
        exact .ok (.mk _ _ _ _ _ _ hh)

theorem Draft.Resembles.feed {d d' : Draft} (hd : d.Resembles d')
    {fields fields' : List (String × Json)} (hfields : Assoc.Rel FieldResembles fields fields') :
    (Json.feed Draft.take d fields).1.Resembles (Json.feed Draft.take d' fields').1 ∧
      (Json.feed Draft.take d fields).2 = (Json.feed Draft.take d' fields').2 := by
  induction hfields generalizing d d' with
  | nil => exact ⟨hd, rfl⟩
  | @cons f f' _ _ hfirst _ ih =>
      obtain ⟨name, j⟩ := f
      obtain ⟨name', j'⟩ := f'
      obtain ⟨hname, hvalue⟩ := hfirst
      obtain rfl : name = name' := hname
      have htake := hd.take hvalue
      rw [Json.feed, Json.feed]
      generalize d.take (name, j) = taken, d'.take (name, j') = taken' at htake ⊢
      cases htake with
      | ok hd' => exact ih hd'
      | error e => exact ⟨hd, rfl⟩

theorem Draft.Resembles.complete? {d d' : Draft} (hd : d.Resembles d') :
    Option.Rel Record.Resembles d.complete? d'.complete? := by
  obtain ⟨groupId, parentGroupId, rank, keyUpdate, createTime, joinedTime, hh⟩ := hd
  rcases groupId with _ | groupId
  · exact .none
  rcases rank with _ | rank
  · exact .none
  rcases keyUpdate with _ | keyUpdate
  · exact .none
  rcases createTime with _ | createTime
  · exact .none
  rcases joinedTime with _ | joinedTime
  · exact .none
  cases hh with
  | none => exact .none
  | some hh => exact .some (.mk _ _ _ _ _ _ hh)

theorem TextResembles.ofJson {text text' : String} (h : TextResembles text text') :
    Option.Rel History.Resembles (ofJson (Json.read text).value).1
        (ofJson (Json.read text').value).1 ∧
      Agree Resembles (ofJson (Json.read text).value).2 (ofJson (Json.read text').value).2 := by
  obtain ⟨hfields, hwhole, -⟩ := h
  have hempty : Draft.Resembles {} {} := .mk none none none none none none .none
  have hfeed := hempty.feed hfields
  simp only [Record.ofJson]
  generalize Json.feed Draft.take {} ((Json.read text).value.entries false fieldNames).fields = fed,
    Json.feed Draft.take {} ((Json.read text').value.entries false fieldNames).fields = fed'
    at hfeed ⊢
  obtain ⟨d, ending⟩ := fed
  obtain ⟨d', ending'⟩ := fed'
  obtain ⟨hdraft, hending⟩ := hfeed
  obtain rfl : ending = ending' := hending
  refine ⟨hdraft.history, (Agree.refl (fun _ => Eq.refl _) _).bind fun _ _ _ => ?_⟩
  rw [hwhole]
  split
  · have hcomplete := hdraft.complete?
    dsimp only
    generalize d.complete? = found, d'.complete? = found' at hcomplete ⊢
    cases hcomplete with
    | none => exact .error _
    | some hr => exact .ok hr
  · exact .error _

/-- What is told of a text, and what is restored from it, is the same but for key material. -/
theorem TextResembles.restore {text text' : String} (h : TextResembles text text') :
    Option.Rel History.Resembles (restore text).1 (restore text').1 ∧
      Agree Resembles (restore text).2 (restore text').2 := by
  refine ⟨h.ofJson.1, ?_⟩
  have hread := h.ofJson.2
  simp only [Record.restore, h.complete_eq]
  generalize (Record.ofJson (Json.read text).value).2 = result,
    (Record.ofJson (Json.read text').value).2 = result' at hread ⊢
  cases hread with
  | error e => exact .error _
  | ok hr =>
      dsimp only
      split
      · exact .ok hr
      · exact .error _

end Reading

end Record

/-- Two phases that differ in nothing but the payload of a prepared rotation. -/
inductive Phase.Resembles : Rotation.Phase → Rotation.Phase → Prop where
  | idle : Resembles .idle .idle
  | prepared (preKeyId payload payload' : String) :
      Resembles (.prepared ⟨preKeyId, payload⟩) (.prepared ⟨preKeyId, payload'⟩)
  | published : Resembles .published .published
  | finishing : Resembles .finishing .finishing

end Group

/-- Two acting users that differ in nothing but their keys. -/
inductive Actor.Resembles : Actor → Actor → Prop where
  | mk (userId publicKey publicKey' privateKey privateKey' token : String) :
      Resembles ⟨userId, publicKey, privateKey, token⟩ ⟨userId, publicKey', privateKey', token⟩

inductive Group.Resembles : Group → Group → Prop where
  | mk {r r' : Record} {a a' : Actor} {p p' : Rotation.Phase} (hr : r.Resembles r')
      (ha : a.Resembles a') (config : Config) (hp : Phase.Resembles p p') :
      Resembles ⟨r, a, config, p⟩ ⟨r', a', config, p'⟩

theorem Group.Resembles.record {g g' : Group} (h : g.Resembles g') :
    g.record.Resembles g'.record := by
  cases h with
  | mk hr => exact hr

theorem Group.Resembles.config_eq {g g' : Group} (h : g.Resembles g') : g.config = g'.config := by
  cases h with
  | mk => rfl

end Keyring
