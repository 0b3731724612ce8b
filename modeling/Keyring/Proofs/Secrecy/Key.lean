import Keyring.Assoc
import Keyring.Proofs.History.Chronicle
import Keyring.Proofs.Json.Size
import Keyring.Proofs.Key.RoundTrip
import Keyring.Signal

/-!
Keys that differ in nothing but their material. Here and in the modules about what is built from
keys, `Resembles` holds of two values that differ in nothing but secret material.
-/

section Lists

variable {α β γ : Type} {R : α → β → Prop} {xs : List α} {ys : List β}

theorem List.Forall₂.map_eq {f : α → γ} {g : β → γ} (h : List.Forall₂ R xs ys)
    (hfg : ∀ x y, R x y → f x = g y) : xs.map f = ys.map g := by
  induction h with
  | nil => rfl
  | cons hfirst _ ih => rw [List.map_cons, List.map_cons, hfg _ _ hfirst, ih]

theorem List.Forall₂.rel_find? {p : α → Bool} {q : β → Bool} (h : List.Forall₂ R xs ys)
    (hpq : ∀ x y, R x y → p x = q y) : Option.Rel R (xs.find? p) (ys.find? q) := by
  induction h with
  | nil => exact .none
  | @cons x y _ _ hfirst _ ih =>
      rw [List.find?_cons, List.find?_cons, hpq x y hfirst]
      cases q y with
      | true => exact .some hfirst
      | false => exact ih

theorem List.Forall₂.rel_getLast? (h : List.Forall₂ R xs ys) :
    Option.Rel R xs.getLast? ys.getLast? := by
  induction h with
  | nil => exact .none
  | cons hfirst hrest ih =>
      cases hrest with
      | nil => exact .some hfirst
      | cons => simpa only [List.getLast?_cons_cons] using ih

end Lists

namespace Keyring

/-- Both succeed, with related results, or both fail alike. -/
inductive Agree {ε α β : Type} (R : α → β → Prop) : Except ε α → Except ε β → Prop where
  | ok {a : α} {b : β} (h : R a b) : Agree R (.ok a) (.ok b)
  | error (e : ε) : Agree R (.error e) (.error e)

namespace Agree

variable {ε ε' α β γ δ : Type} {R : α → β → Prop} {R' : γ → δ → Prop} {r : Except ε α}
  {r' : Except ε β}

theorem refl {R : α → α → Prop} (hR : ∀ a, R a a) (r : Except ε α) : Agree R r r := by
  cases r with
  | ok a => exact .ok (hR a)
  | error e => exact .error e

theorem eq {r r' : Except ε α} (h : Agree Eq r r') : r = r' := by
  cases h with
  | ok h => rw [h]
  | error e => rfl

theorem imp {S : α → β → Prop} (h : Agree R r r') (hRS : ∀ a b, R a b → S a b) :
    Agree S r r' := by
  cases h with
  | ok h => exact .ok (hRS _ _ h)
  | error e => exact .error e

theorem bind {f : α → Except ε γ} {f' : β → Except ε δ} (h : Agree R r r')
    (hf : ∀ a b, R a b → Agree R' (f a) (f' b)) : Agree R' (r >>= f) (r' >>= f') := by
  cases h with
  | ok h => exact hf _ _ h
  | error e => exact .error e

theorem mapM {f : α → Except ε γ} {f' : β → Except ε δ} {xs : List α} {ys : List β}
    (h : List.Forall₂ R xs ys) (hf : ∀ a b, R a b → Agree R' (f a) (f' b)) :
    Agree (List.Forall₂ R') (xs.mapM f) (ys.mapM f') := by
  induction h with
  | nil => exact .ok .nil
  | cons hfirst _ ih =>
      rw [List.mapM_cons, List.mapM_cons]
      apply (hf _ _ hfirst).bind
      intro _ _ hc
      exact ih.bind fun _ _ hcs => .ok (.cons hc hcs)

end Agree

namespace Assoc

variable {α : Type} {R : String → α → α → Prop} {es es' : List (String × α)}

/-- The same names in the same order, with values that are related as the name says. -/
def Rel (R : String → α → α → Prop) (es es' : List (String × α)) : Prop :=
  List.Forall₂ (fun e e' => e.1 = e'.1 ∧ R e.1 e.2 e'.2) es es'

theorem Rel.lookup (h : Rel R es es') (name : String) :
    Option.Rel (R name) (es.lookup name) (es'.lookup name) := by
  induction h with
  | nil => exact .none
  | @cons e e' _ _ hfirst _ ih =>
      obtain ⟨n, a⟩ := e
      obtain ⟨n', a'⟩ := e'
      obtain ⟨hname, hvalue⟩ := hfirst
      obtain rfl : n = n' := hname
      rw [List.lookup_cons, List.lookup_cons]
      by_cases hn : (name == n) = true
      · obtain rfl := beq_iff_eq.mp hn
        simpa only [beq_self_eq_true] using Option.Rel.some hvalue
      · simpa only [Bool.eq_false_iff.mpr hn] using ih

theorem Rel.put (h : Rel R es es') {name : String} {a a' : α} (ha : R name a a') :
    Rel R (put name a es) (put name a' es') := by
  induction h with
  | nil => exact .cons ⟨rfl, ha⟩ .nil
  | @cons e e' _ _ hfirst hrest ih =>
      obtain ⟨n, b⟩ := e
      obtain ⟨n', b'⟩ := e'
      obtain ⟨hname, hvalue⟩ := hfirst
      obtain rfl : n = n' := hname
      rw [Assoc.put, Assoc.put]
      split
      · rename_i hn
        subst hn
        exact .cons ⟨rfl, ha⟩ hrest
      · exact .cons ⟨rfl, hvalue⟩ ih

end Assoc

/-- Two keys that differ in nothing but their material, which takes the same room in JSON. -/
structure Key.Resembles (k k' : Key) : Prop where
  id_eq : k.id = k'.id
  material : Json.encodedSize k.material = Json.encodedSize k'.material
  privateMaterial : Json.encodedSize k.privateMaterial = Json.encodedSize k'.privateMaterial
  publicMaterial : Json.encodedSize k.publicMaterial = Json.encodedSize k'.publicMaterial
  time_eq : k.time = k'.time

abbrev Key.ListResembles (keys keys' : List Key) : Prop :=
  List.Forall₂ Key.Resembles keys keys'

namespace Key

section Lists

variable {k k' : Key} {keys keys' : List Key}

theorem Resembles.refl (k : Key) : k.Resembles k :=
  ⟨rfl, rfl, rfl, rfl, rfl⟩

theorem ListResembles.refl (keys : List Key) : ListResembles keys keys :=
  List.forall₂_same.mpr fun k _ => .refl k

theorem Resembles.cursor_eq (h : k.Resembles k') : k.cursor = k'.cursor := by
  rw [cursor, cursor, h.id_eq, h.time_eq]

theorem Resembles.size_toJson (h : k.Resembles k') : k.toJson.size = k'.toJson.size := by
  apply Json.size_record
  rw [h.id_eq, h.time_eq]
  exact .cons ⟨rfl, rfl⟩ (.cons ⟨rfl, h.material⟩ (.cons ⟨rfl, h.privateMaterial⟩
    (.cons ⟨rfl, h.publicMaterial⟩ (.cons ⟨rfl, rfl⟩ .nil))))

theorem ListResembles.ids_eq (h : ListResembles keys keys') : ids keys = ids keys' :=
  h.map_eq fun _ _ hk => hk.id_eq

theorem ListResembles.size_listToJson (h : ListResembles keys keys') :
    (listToJson keys).size = (listToJson keys').size := by
  apply Json.size_array
  rw [List.forall₂_map_left_iff, List.forall₂_map_right_iff]
  exact h.imp fun _ _ => Resembles.size_toJson

theorem ListResembles.indexed_eq (h : ListResembles keys keys') (position : Nat) :
    Signal.indexed position keys = Signal.indexed position keys' := by
  induction h generalizing position with
  | nil => rfl
  | cons hfirst _ ih => rw [Signal.indexed, Signal.indexed, hfirst.id_eq, ih]

theorem ListResembles.appended_eq (h : ListResembles keys keys') (position : Nat) :
    Signal.appended position keys = Signal.appended position keys' := by
  rw [Signal.appended, Signal.appended, h.indexed_eq, h.length_eq]

end Lists

section Reading

/-- The fields of a key that hold its material. -/
def secretNames : List String :=
  ["group_key", "private_group_key", "public_group_key"]

/-- Two values of a field of a key that are the same, or material that takes the same room. -/
inductive FieldResembles : String → Json → Json → Prop where
  | same (name : String) (j : Json) : FieldResembles name j j
  | material {name s s' : String} (hname : name ∈ secretNames)
      (hsize : Json.encodedSize s = Json.encodedSize s') :
      FieldResembles name (.text s) (.text s')

/-- Two values with the same fields of a key, but for the material. -/
structure FormResembles (j j' : Json) : Prop where
  fields : Assoc.Rel FieldResembles (j.entries false fieldNames).fields
    (j'.entries false fieldNames).fields
  whole_eq : (j.entries false fieldNames).whole = (j'.entries false fieldNames).whole

theorem Resembles.toJson {k k' : Key} (h : k.Resembles k') :
    FormResembles k.toJson k'.toJson := by
  have hid : FieldResembles "group_key_id" (.text k.id) (.text k'.id) := by
    rw [h.id_eq]
    exact .same _ _
  have hmaterial : FieldResembles "group_key" (.text k.material) (.text k'.material) :=
    .material (by decide) h.material
  have hprivate : FieldResembles "private_group_key" (.text k.privateMaterial)
      (.text k'.privateMaterial) :=
    .material (by decide) h.privateMaterial
  have hpublic : FieldResembles "public_group_key" (.text k.publicMaterial)
      (.text k'.publicMaterial) :=
    .material (by decide) h.publicMaterial
  have htime : FieldResembles "time" (.natural k.time.toNat) (.natural k'.time.toNat) := by
    rw [h.time_eq]
    exact .same _ _
  exact ⟨.cons ⟨rfl, hid⟩ (.cons ⟨rfl, hmaterial⟩ (.cons ⟨rfl, hprivate⟩
    (.cons ⟨rfl, hpublic⟩ (.cons ⟨rfl, htime⟩ .nil)))), rfl⟩

variable {j j' : Json} {e e' : Json.Entries} {name : String}

theorem FieldResembles.agree {α : Type} (h : FieldResembles name j j') (hname : name ∉ secretNames)
    (read : Json → Except ReadError α) : Agree Eq (read j) (read j') := by
  cases h with
  | same => exact .refl (fun _ => rfl) _
  | material hsecret => exact absurd hsecret hname

theorem FieldResembles.asText (h : FieldResembles name j j') :
    Agree (fun s s' => Json.encodedSize s = Json.encodedSize s') j.asText j'.asText := by
  cases h with
  | same => exact (Agree.refl (fun s => Eq.refl s) _).imp fun _ _ => congrArg Json.encodedSize
  | material _ hsize => exact .ok hsize

theorem agree_field (h : Assoc.Rel FieldResembles e.fields e'.fields) (name : String) :
    Agree (FieldResembles name) (e.field name) (e'.field name) := by
  have hlookup : Option.Rel (FieldResembles name) (e.field? name) (e'.field? name) :=
    h.lookup name
  unfold Json.Entries.field
  generalize e.field? name = found, e'.field? name = found' at hlookup ⊢
  cases hlookup with
  | none => exact .error _
  | some hvalue => exact .ok hvalue

theorem FormResembles.ofJson (h : FormResembles j j') : Agree Resembles (ofJson j) (ofJson j') := by
  have hrecord : Agree (fun e e' => Assoc.Rel FieldResembles e.fields e'.fields)
      (j.asRecord fieldNames) (j'.asRecord fieldNames) := by
    simp only [Json.asRecord, h.whole_eq]
    split
    · exact .ok h.fields
    · exact .error _
  refine hrecord.bind fun e e' he => ?_
  refine (agree_field he _).bind fun _ _ hj => (hj.agree (by decide) _).bind fun id _ hid => ?_
  refine (agree_field he _).bind fun _ _ hj => hj.asText.bind fun _ _ hmaterial => ?_
  refine (agree_field he _).bind fun _ _ hj => hj.asText.bind fun _ _ hprivate => ?_
  refine (agree_field he _).bind fun _ _ hj => hj.asText.bind fun _ _ hpublic => ?_
  refine (agree_field he _).bind fun _ _ hj => (hj.agree (by decide) _).bind fun time _ htime => ?_
  exact .ok ⟨hid, hmaterial, hprivate, hpublic, htime⟩

theorem agree_listOfJson {items items' : List Json} (h : List.Forall₂ FormResembles items items') :
    Agree ListResembles (listOfJson (.array items)) (listOfJson (.array items')) :=
  Agree.mapM h fun _ _ => FormResembles.ofJson

end Reading

end Key

end Keyring
