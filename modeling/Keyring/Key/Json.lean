import Keyring.Json.Fields
import Keyring.Json.Printer
import Keyring.Key.Basic
import Keyring.Text.Quoted

namespace Keyring

namespace Key

def fieldNames : List String :=
  ["group_key_id", "group_key", "private_group_key", "public_group_key", "time"]

def toJson (k : Key) : Json :=
  .record [
    ("group_key_id", .text k.id),
    ("group_key", .text k.material),
    ("private_group_key", .text k.privateMaterial),
    ("public_group_key", .text k.publicMaterial),
    ("time", .natural k.time.toNat)]

def ofJson (j : Json) : Except ReadError Key := do
  let e ← j.asRecord fieldNames
  return {
    id := ← (← e.field "group_key_id").asText
    material := ← (← e.field "group_key").asText
    privateMaterial := ← (← e.field "private_group_key").asText
    publicMaterial := ← (← e.field "public_group_key").asText
    time := ← (← e.field "time").asWord64 }

def describe (k : Key) : String :=
  "GroupKey \x7b group_key_id: " ++ Text.quote k.id ++ ", time: " ++ Decimal.render k.time.toNat ++
    ", .. \x7d"

/-- A list of keys in the order of an array. -/
def listOfJson (j : Json) : Except ReadError (List Key) := do
  (← j.asItems).mapM ofJson

def listToJson (keys : List Key) : Json :=
  .array (keys.map toJson)

end Key

namespace Cursor

def fieldNames : List String :=
  ["time", "group_key_id"]

def toJson (c : Cursor) : Json :=
  .record [("time", .natural c.time.toNat), ("group_key_id", .text c.keyId)]

def ofJson (j : Json) : Except ReadError Cursor := do
  let e ← j.asRecord fieldNames
  return {
    time := ← (← e.field "time").asWord64
    keyId := ← (← e.field "group_key_id").asText }

end Cursor

end Keyring
