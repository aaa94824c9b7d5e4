import AccessDecision.Credential.Verifier
import AccessDecision.Event

set_option autoImplicit false

/-! # Issuing credentials

An issuer signs with its own identity. Each credential takes one nonce from the entropy; a failure
takes none and leaves no trace in the log. -/

namespace AccessDecision

/-- A supply of nonces, and how many have been drawn from it. -/
structure Entropy where
  nonces : Nat → Nonce
  drawn : Nat := 0

namespace Entropy

def current (e : Entropy) : Nonce := e.nonces e.drawn

def advance (e : Entropy) : Entropy := { e with drawn := e.drawn + 1 }

/-- Nonces that count up from a number, without end. -/
def countingFrom (n : Nonce) : Entropy := { nonces := fun i => n + BitVec.ofNat 128 i }

end Entropy

structure Issuer where
  identity : Identity
  algorithm : Algorithm := .hs256
  /-- Who issues the credentials, as the claims show it. -/
  name : Option String := none

namespace Issuer

/-- The verifier that accepts what this issuer signs. -/
def verifier (i : Issuer) : Verifier := ⟨i.identity, i.algorithm⟩

/-- The credential that is issued now with a nonce. -/
def sign (i : Issuer) (now : Instant) (nonce : Nonce) : Credential :=
  .sign (.issue i.identity.clientId now i.name nonce) i.algorithm i.identity.key

/-- A credential for now, or why there is none, and what is left of the entropy. -/
def issue (i : Issuer) (now : Instant) (e : Entropy) :
    Except CredentialError Credential × Entropy :=
  match i.identity.validate with
  | .error error => (.error error, e)
  | .ok () => (.ok (i.sign now e.current), e.advance)

/-- The issuer as diagnostics show it. -/
def diagnostic (i : Issuer) : String :=
  "CredentialIssuer \x7b identity: " ++ i.identity.diagnostic ++ ", algorithm: " ++
    i.algorithm.name ++ ", issuer: " ++ Text.optional (i.name.map Text.quoted) ++ " \x7d"

end Issuer

/-- What the log shows of a new credential. -/
def Credential.issuedEvent (c : Credential) : Event :=
  .credentialIssued c.claims.clientId c.claims.expiryInstant

end AccessDecision
