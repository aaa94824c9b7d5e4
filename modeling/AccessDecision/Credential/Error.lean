import AccessDecision.Json.Error
import AccessDecision.Text.Base64url

set_option autoImplicit false

/-! # What can go wrong with a credential -/

namespace AccessDecision

/-- Why no credential is issued. -/
inductive CredentialError where
  /-- The identity lacks what signing needs. -/
  | configuration (reason : String)
  /-- There is no way to sign. -/
  | signing (reason : String)
  deriving DecidableEq, Repr

def CredentialError.message : CredentialError → String
  | .configuration reason => "Credential configuration is invalid: " ++ reason
  | .signing reason => "Failed to sign credential: " ++ reason

/-- Why a token has not the form of a credential. -/
inductive Malformation where
  | notThreeSegments
  /-- A segment is not base64url. -/
  | encoding (fault : Text.Base64url.Fault)
  /-- A segment is not the JSON text of what belongs there. -/
  | content (error : Json.Error)
  /-- The signature is not base64url. -/
  | signature (fault : Text.Base64url.Fault)
  deriving DecidableEq

def Malformation.message : Malformation → String
  | .notThreeSegments => "expected three dot-separated segments"
  | .encoding fault => fault.message
  | .content error => error.message
  | .signature fault => "signature: " ++ fault.message

/-- Why a token is not accepted. -/
inductive VerificationError where
  | malformed (how : Malformation)
  | algorithmMismatch (expected actual : String)
  | invalidSignature
  | expired (expiresAt : Int64)
  deriving DecidableEq

def VerificationError.message : VerificationError → String
  | .malformed how => "Malformed credential: " ++ how.message
  | .algorithmMismatch expected actual =>
    "Credential is signed with " ++ actual ++ ", expected " ++ expected
  | .invalidSignature => "Credential signature is invalid"
  | .expired expiresAt => "Credential expired at " ++ Text.intText expiresAt.toInt

end AccessDecision
