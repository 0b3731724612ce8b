import Keyring.Json.Fields
import Keyring.Rotation.Basic

namespace Keyring.Rotation

namespace Output

def fieldNames : List String :=
  ["pre_group_key_id", "server_output"]

def toJson (o : Output) : Json :=
  .record [("pre_group_key_id", .text o.preKeyId), ("server_output", .text o.serverOutput)]

def ofJson (j : Json) : Except ReadError Output := do
  let e ← j.asRecord fieldNames
  return {
    preKeyId := ← (← e.field "pre_group_key_id").asText
    serverOutput := ← (← e.field "server_output").asText }

end Output

namespace Artifact

def fieldNames : List String :=
  ["pre_group_key_id", "payload"]

def toJson (a : Artifact) : Json :=
  .record [("pre_group_key_id", .text a.preKeyId), ("payload", .text a.payload)]

def ofJson (j : Json) : Except ReadError Artifact := do
  let e ← j.asRecord fieldNames
  return {
    preKeyId := ← (← e.field "pre_group_key_id").asText
    payload := ← (← e.field "payload").asText }

end Artifact

end Keyring.Rotation
