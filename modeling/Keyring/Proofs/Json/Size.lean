import Mathlib.Data.List.Forall2
import Mathlib.Data.String.Basic
import Keyring.Digest.Sha256
import Keyring.Json.Printer

namespace Keyring.Json

/-- The number of bytes of the compact form of a value. -/
def size (j : Json) : Nat :=
  j.render.utf8ByteSize

/-- The number of bytes of a string in JSON: its quotes, and its characters as they are escaped. -/
def encodedSize (s : String) : Nat :=
  (Json.text s).size

theorem size_eq_utf8Len (j : Json) : j.size = String.utf8Len (chars j) :=
  String.utf8ByteSize_ofList _

theorem itemChars_cons_cons (j k : Json) (rest : List Json) :
    itemChars (j :: k :: rest) = chars j ++ ',' :: itemChars (k :: rest) :=
  rfl

theorem memberChars_cons_cons (name : Option String) (j : Json) (m : Option String × Json)
    (rest : List (Option String × Json)) :
    memberChars ((name, j) :: m :: rest) =
      memberName name ++ ':' :: chars j ++ ',' :: memberChars (m :: rest) :=
  rfl

theorem utf8Len_itemChars {items items' : List Json}
    (h : List.Forall₂ (fun j j' => size j = size j') items items') :
    String.utf8Len (itemChars items) = String.utf8Len (itemChars items') := by
  induction h with
  | nil => rfl
  | cons hfirst hrest ih =>
      simp only [size_eq_utf8Len] at hfirst
      cases hrest with
      | nil => exact hfirst
      | cons _ _ =>
          rw [itemChars_cons_cons, itemChars_cons_cons]
          simp only [String.utf8Len_append, String.utf8Len_cons, hfirst, ih]

theorem utf8Len_memberChars {members members' : List (Option String × Json)}
    (h : List.Forall₂ (fun m m' => m.1 = m'.1 ∧ size m.2 = size m'.2) members members') :
    String.utf8Len (memberChars members) = String.utf8Len (memberChars members') := by
  induction h with
  | nil => rfl
  | @cons m m' _ _ hfirst hrest ih =>
      obtain ⟨name, j⟩ := m
      obtain ⟨name', j'⟩ := m'
      obtain ⟨hname, hsize⟩ := hfirst
      obtain rfl : name = name' := hname
      simp only [size_eq_utf8Len] at hsize
      cases hrest with
      | nil => simp only [memberChars, String.utf8Len_append, String.utf8Len_cons, hsize]
      | cons _ _ =>
          rw [memberChars_cons_cons, memberChars_cons_cons]
          simp only [String.utf8Len_append, String.utf8Len_cons, hsize, ih]

theorem size_array {items items' : List Json}
    (h : List.Forall₂ (fun j j' => size j = size j') items items') :
    size (.array items) = size (.array items') := by
  simp only [size_eq_utf8Len, chars, List.cons_append, String.utf8Len_cons, String.utf8Len_append,
    utf8Len_itemChars h]

theorem size_record {members members' : List (String × Json)}
    (h : List.Forall₂ (fun m m' => m.1 = m'.1 ∧ size m.2 = size m'.2) members members') :
    size (record members) = size (record members') := by
  have hmembers : String.utf8Len (memberChars (members.map fun m => (some m.1, m.2))) =
      String.utf8Len (memberChars (members'.map fun m => (some m.1, m.2))) := by
    apply utf8Len_memberChars
    rw [List.forall₂_map_left_iff, List.forall₂_map_right_iff]
    exact h.imp fun _ _ hm => ⟨congrArg some hm.1, hm.2⟩
  simp only [size_eq_utf8Len, record, chars, List.cons_append, String.utf8Len_cons,
    String.utf8Len_append, hmembers]

end Keyring.Json

namespace Keyring

theorem Hex.utf8Len_escapeChar_lower :
    ∀ d < 16, String.utf8Len (Json.escapeChar (lower d)) = 1 := by
  decide

theorem Hex.encodedSize_ofBytes (bytes : List UInt8) :
    Json.encodedSize (ofBytes bytes) = 2 * bytes.length + 2 := by
  have hdigits : String.utf8Len ((bytes.flatMap fun b =>
      [lower (b.toNat / 16), lower (b.toNat % 16)]).flatMap Json.escapeChar) =
        2 * bytes.length := by
    induction bytes with
    | nil => rfl
    | cons b rest ih =>
        have hhigh : b.toNat / 16 < 16 := by have := b.toNat_lt; omega
        have hlow : b.toNat % 16 < 16 := Nat.mod_lt _ (by decide)
        simp only [List.flatMap_cons, List.flatMap_append, List.flatMap_nil, List.append_nil,
          String.utf8Len_append, utf8Len_escapeChar_lower _ hhigh,
          utf8Len_escapeChar_lower _ hlow, ih, List.length_cons]
        omega
  have hquote : '"'.utf8Size = 1 := rfl
  simp only [Json.encodedSize, Json.size_eq_utf8Len, Json.chars, Json.quoted, ofBytes,
    String.toList_ofList, List.cons_append, String.utf8Len_cons, String.utf8Len_append, hdigits,
    String.utf8Len_nil, hquote]

theorem Sha256.length_bigEndian (width n : Nat) : (bigEndian width n).length = width := by
  induction width with
  | zero => rfl
  | succ width ih => exact congrArg (· + 1) ih

theorem Sha256.length_hash (message : List UInt8) : (hash message).length = 32 := by
  have hwords (ws : List UInt32) :
      (ws.flatMap fun w => bigEndian 4 w.toNat).length = 4 * ws.length := by
    induction ws with
    | nil => rfl
    | cons w rest ih =>
        rw [List.flatMap_cons, List.length_append, ih, length_bigEndian, List.length_cons]
        omega
  rw [hash, hwords, Vector.length_toList]

theorem Sha256.encodedSize_hex (message : List UInt8) : Json.encodedSize (hex message) = 66 := by
  rw [hex, Hex.encodedSize_ofBytes, length_hash]

end Keyring
