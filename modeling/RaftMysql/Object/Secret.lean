import RaftMysql.Object.Manifest
import RaftMysql.Text.Utf8
import RaftMysql.Text.Quoted
import RaftMysql.Error

/-!
# Credentials

The secret of a cluster holds the account that the operator uses on the database servers and the
password of the super user, which the consensus agents ask for. Each value stands either as bytes or
as plain text; the bytes come first.
-/

namespace RaftMysql

/-- A secret. -/
abbrev Secret := Manifest

namespace Secret

/-- The value under a key: its bytes read as text, or else its plain text. -/
def value? (s : Secret) (key : String) : Option String :=
  match (s.text? ["data", key]).bind Text.Base64.decode? with
  | some bytes => some (Text.Utf8.decodeLossy bytes)
  | none => s.text? ["stringData", key]

end Secret

/-- The credentials of a cluster. -/
structure Credentials where
  user : String
  password : String
  rootPassword : String
  deriving DecidableEq, Repr

namespace Credentials

/-- The value of a secret under a key that it must have. -/
def valueOf (secretName : String) (secret : Secret) (key : String) : Except Error String :=
  match Secret.value? secret key with
  | some value => .ok value
  | none => .error (.missingSecretKey secretName key)

/-- The credentials in a secret. The first missing key is named. -/
def ofSecret (secretName : String) (secret : Secret) : Except Error Credentials := do
  let user ← valueOf secretName secret "operator-user"
  let password ← valueOf secretName secret "operator-password"
  let rootPassword ← valueOf secretName secret "root-password"
  return ⟨user, password, rootPassword⟩

/-- The credentials as they may be shown: the user alone. -/
def shown (c : Credentials) : String :=
  "Credentials \x7b user: " ++ Text.quoted c.user ++ ", .. \x7d"

end Credentials

end RaftMysql
