import AccessDecision.Credential.Identity
import AccessDecision.Credential.Token
import AccessDecision.Text.Pieces

set_option autoImplicit false

/-! # Verifying tokens

A verifier shares the secret and the algorithm with the issuer. It goes through a token in stages,
each of which must succeed before the next one looks: three segments, the header, the algorithm that
it names, the signature, and only then the claims and their expiry. -/

namespace AccessDecision

structure Verifier where
  identity : Identity
  algorithm : Algorithm := .hs256

/-- The segments of a token. -/
structure Segments where
  header : List Char
  payload : List Char
  signature : List Char
  deriving DecidableEq

namespace Segments

/-- The segments of a text with exactly two dots. -/
def of? (token : String) : Option Segments :=
  match Text.pieces (· = '.') token.toList with
  | [header, payload, signature] => some ⟨header, payload, signature⟩
  | _ => none

/-- The bytes that the signature is over. -/
def signed (s : Segments) : Bytes := Text.Utf8.encodeChars (s.header ++ '.' :: s.payload)

end Segments

namespace Verifier

/-- The content of a segment. -/
def content {α : Type} (read : Bytes → Except Json.Error α) (segment : List Char) :
    Except VerificationError α :=
  match Text.Base64url.decode (Text.Utf8.encodeChars segment) with
  | .error fault => .error (.malformed (.encoding fault))
  | .ok bytes => (read bytes).mapError fun e => .malformed (.content e)

/-- The claims of a token that is genuine and has not expired. -/
def verify (v : Verifier) (token : String) (now : Instant) : Except VerificationError Claims :=
  match Segments.of? token with
  | none => .error (.malformed .notThreeSegments)
  | some segments => do
    let header ← content Header.read segments.header
    if header.algorithm ≠ v.algorithm.name then
      .error (.algorithmMismatch v.algorithm.name header.algorithm)
    else
      match Text.Base64url.decode (Text.Utf8.encodeChars segments.signature) with
      | .error fault => .error (.malformed (.signature fault))
      | .ok signature =>
        if !v.algorithm.verify v.identity.key segments.signed signature then
          .error .invalidSignature
        else do
          let claims ← content Claims.read segments.payload
          if claims.expiredAt now then .error (.expired claims.expiresAt) else .ok claims

end Verifier

end AccessDecision
