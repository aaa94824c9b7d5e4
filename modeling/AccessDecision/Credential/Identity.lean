import AccessDecision.Credential.Error
import AccessDecision.Text.Blank
import AccessDecision.Text.Quoted
import AccessDecision.Text.Utf8

set_option autoImplicit false

/-! # Identities

A client is known by its id and signs with the secret that it shares with the service. -/

namespace AccessDecision

structure Identity where
  clientId : String
  clientSecret : String
  deriving DecidableEq

namespace Identity

/-- The secret as a signing key. -/
def key (i : Identity) : Bytes := Text.Utf8.encode i.clientSecret

/-- An identity can sign if its id is not blank and its secret is not empty. -/
def validate (i : Identity) : Except CredentialError Unit :=
  if Text.isBlank i.clientId then .error (.configuration "client id is missing or empty")
  else if i.clientSecret.isEmpty then .error (.configuration "client secret is missing or empty")
  else .ok ()

/-- The identity as diagnostics show it: the secret is left out. -/
def diagnostic (i : Identity) : String :=
  "Identity \x7b client_id: " ++ Text.quoted i.clientId ++ ", client_secret: \"<redacted>\" \x7d"

end Identity

end AccessDecision
