import Keyring.Actor
import Keyring.Digest.Sha256
import Keyring.Key.Basic
import Keyring.Rotation.Basic
import Keyring.Text.Decimal

namespace Keyring.Memory

/-- The engine's state. -/
structure Engine where
  /-- The number of keys derived so far. -/
  derivations : Nat := 0
  /-- Whether derivations fail. -/
  failing : Bool := false
  /-- Whether pages are passed on as they are. -/
  plain : Bool := false
  deriving Repr

namespace Engine

/-- The digest of texts, each followed by a zero byte. -/
def digest (parts : List String) : String :=
  Sha256.hex (parts.flatMap fun s => s.toUTF8.toList ++ [0])

def sealPage (payload : String) (keyCount : Nat) (recipientKey : String) : String :=
  "sealed:" ++ recipientKey ++ ":" ++ Decimal.render keyCount ++ ":" ++
    digest [payload, recipientKey]

/-- A page payload as the engine gives it out. -/
def sealed (e : Engine) (payload : String) (keyCount : Nat) (recipientKey : String) : String :=
  if e.plain then payload else sealPage payload keyCount recipientKey

def prepare (latest : Key) (publicKey : String) : Rotation.Artifact where
  preKeyId := latest.id
  payload := digest [latest.material, publicKey]

/-- The id of the key that an output derives. -/
def rotatedKeyId (preKeyId serverOutput : String) : String :=
  preKeyId ++ "-rot-" ++ String.ofList ((digest [serverOutput]).toList.take 8)

/-- The key that an output derives from its start key. -/
def rotatedKey (preKey : Key) (output : Rotation.Output) (actor : Actor) : Key where
  id := rotatedKeyId preKey.id output.serverOutput
  material := digest [preKey.material, output.serverOutput]
  privateMaterial := digest [preKey.privateMaterial, actor.privateKey]
  publicMaterial := digest [preKey.publicMaterial, actor.publicKey]
  time := preKey.time + 1

/-- Derives a key, unless derivations fail or the start key is not the output's. -/
def derive (e : Engine) (preKey : Key) (output : Rotation.Output) (actor : Actor) :
    Engine × Except Failure Key :=
  if e.failing then (e, .error (.crypto "derivation disabled"))
  else if preKey.id ≠ output.preKeyId then
    (e, .error (.crypto
      ("output rotates from " ++ output.preKeyId ++ " but pre-key is " ++ preKey.id)))
  else ({ e with derivations := e.derivations + 1 }, .ok (rotatedKey preKey output actor))

end Engine

end Keyring.Memory
