import Keyring.History.Basic
import Keyring.Key.Json

namespace Keyring.History

def toJson (h : History) : Json :=
  Key.listToJson h.keys

def ofJson (j : Json) : Except ReadError History := do
  let keys ← Key.listOfJson j
  match ofKeys keys with
  | .ok h => .ok h
  | .error e => .error (.refused e)

def save (h : History) : String :=
  h.toJson.render

def restore (text : String) : Except Failure History :=
  Json.decode ofJson text

end Keyring.History
