import SignOn.Text.Quoted
import SignOn.Text.Record

/-!
# Credentials

What a user presents to log in. Passwords and tokens are secrets: what is kept with an
authentication, and what is shown for diagnosis, are only the kind of a credential and its
identifier.

## Main definitions

* `Credential` - a name with a password, a one-time password, or a token
* `CredentialSummary` - kind and identifier of a credential
* `Credential.summary` - the summary of a credential
* `Credential.diagnosis` - the text that a credential is shown as
-/

namespace SignOn

/-- What a user presents to log in. -/
inductive Credential where
  | usernamePassword (username password : String)
  | oneTimePassword (id token : String)
  | token (id token : String)
  deriving DecidableEq

/-- Kind and identifier of a credential that was presented. -/
structure CredentialSummary where
  id : String
  kind : String
  deriving DecidableEq, Repr

namespace Credential

/-- The identifier that the credential was presented for. -/
def id : Credential → String
  | usernamePassword username _ => username
  | oneTimePassword id _ => id
  | token id _ => id

/-- The name of the kind of a credential. -/
def kind : Credential → String
  | usernamePassword .. => "username_password"
  | oneTimePassword .. => "one_time_password"
  | token .. => "token"

/-- What may be kept about a credential. -/
def summary (c : Credential) : CredentialSummary := ⟨c.id, c.kind⟩

/-- The text that a credential is shown as, without its secret. -/
def diagnosis (c : Credential) : String :=
  Text.partialRecord "Credential" [("type", Text.quote c.kind), ("id", Text.quote c.id)]

end Credential

end SignOn
