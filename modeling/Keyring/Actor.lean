import Keyring.Text.Quoted

namespace Keyring

/-- The identity of an acting user. -/
structure Actor where
  userId : String
  publicKey : String
  privateKey : String
  /-- The token that goes with every request to the server. -/
  token : String
  deriving DecidableEq, Repr

/-- A description without the private key and the token. -/
def Actor.describe (a : Actor) : String :=
  "UserContext \x7b user_id: " ++ Text.quote a.userId ++ ", public_key: " ++
    Text.quote a.publicKey ++ ", .. \x7d"

end Keyring
