import Keyring.Key.Json
import Keyring.Page.Basic
import Keyring.Proofs.Json.RoundTrip

namespace Keyring

namespace Key

theorem plain_toJson (k : Key) : k.toJson.plain = true :=
  rfl

theorem plain_listToJson (keys : List Key) : (listToJson keys).plain = true := by
  show Json.plainItems (keys.map toJson) = true
  induction keys with
  | nil => rfl
  | cons k rest ih =>
      rw [List.map_cons, Json.plainItems, plain_toJson, ih]
      rfl

theorem asWord64_natural (t : UInt64) : (Json.natural t.toNat).asWord64 = .ok t := by
  have hle : t.toNat ≤ Decimal.max64 := Nat.le_of_lt_succ t.toNat_lt
  simp [Json.asWord64, Json.asNat, hle, Except.map]

theorem ofJson_toJson (k : Key) : ofJson k.toJson = .ok k := by
  have hrecord : k.toJson.asRecord fieldNames = .ok ⟨[
      ("group_key_id", .text k.id), ("group_key", .text k.material),
      ("private_group_key", .text k.privateMaterial),
      ("public_group_key", .text k.publicMaterial), ("time", .natural k.time.toNat)], true⟩ :=
    rfl
  rw [ofJson, hrecord]
  show ((Json.natural k.time.toNat).asWord64 >>= fun time => .ok { k with time }) = .ok k
  rw [asWord64_natural]
  rfl

theorem listOfJson_listToJson (keys : List Key) : listOfJson (listToJson keys) = .ok keys := by
  show (keys.map toJson).mapM ofJson = .ok keys
  induction keys with
  | nil => rfl
  | cons k rest ih =>
      rw [List.map_cons, List.mapM_cons, ofJson_toJson, ih]
      rfl

end Key

namespace Page

theorem decode_listToJson (keys : List Key) :
    decode (Key.listToJson keys).render = .ok keys :=
  Json.decode_render (Key.plain_listToJson keys) (Key.listOfJson_listToJson keys)

theorem decode_ofSpan (keys : List Key) (index : UInt64) (s : Span) :
    decode (ofSpan keys index s).payload = .ok ((keys.drop s.start.toNat).take s.size.toNat) :=
  decode_listToJson _

end Page

end Keyring
