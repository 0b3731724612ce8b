namespace Keyring

/-- A generation of a group key: its id, the encrypted material of its three parts, and the time of
its creation. -/
structure Key where
  id : String
  material : String
  privateMaterial : String
  publicMaterial : String
  time : UInt64
  deriving DecidableEq, Repr

/-- A position in a server's key log: the key after which to go on. -/
structure Cursor where
  time : UInt64
  keyId : String
  deriving DecidableEq, Repr

def Key.cursor (k : Key) : Cursor :=
  ⟨k.time, k.id⟩

end Keyring
