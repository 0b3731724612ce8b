import Keyring.Json.Fields

namespace Keyring

/-- A pending request to join; the last one of a list is the cursor of the next list. -/
structure JoinRequest where
  userId : String
  time : UInt64
  deriving DecidableEq, Repr

namespace JoinRequest

/-- Whether a request stands before another in a list: by time, then by user. -/
def before (a b : JoinRequest) : Bool :=
  a.time < b.time || (a.time == b.time && a.userId < b.userId)

def fieldNames : List String :=
  ["user_id", "time"]

def toJson (r : JoinRequest) : Json :=
  .record [("user_id", .text r.userId), ("time", .natural r.time.toNat)]

def ofJson (j : Json) : Except ReadError JoinRequest := do
  let e ← j.asRecord fieldNames
  return {
    userId := ← (← e.field "user_id").asText
    time := ← (← e.field "time").asWord64 }

end JoinRequest

end Keyring
