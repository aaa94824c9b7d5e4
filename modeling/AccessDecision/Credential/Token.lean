import AccessDecision.Credential.Algorithm
import AccessDecision.Credential.Claims

set_option autoImplicit false

/-! # Tokens

A token is three base64url segments joined by dots: the header, which names the algorithm, the
claims, and the signature of the first two segments as they stand, with the dot between them. -/

namespace AccessDecision

/-- The head of a token. -/
structure Header where
  algorithm : String
  type : String
  deriving DecidableEq, Repr

namespace Header

def ofAlgorithm (a : Algorithm) : Header := ⟨a.name, "JWT"⟩

def text (h : Header) : String :=
  (Json.object [("alg", .string h.algorithm), ("typ", .string h.type)]).text

def layout : Json.Layout where
  title := "Header"
  fields := [{ name := "alg", kind := .string }, { name := "typ", kind := .string }]

def ofAssignment (a : Json.Assignment) : Except Json.Cause Header := do
  let algorithm ← a.string "alg"
  let type ← a.string "typ"
  .ok ⟨algorithm, type⟩

/-- The header of a text. Other algorithms and types than the ones written here are read too. -/
def read (input : Bytes) : Except Json.Error Header := layout.read ofAssignment input

end Header

/-- A token and the claims that it carries. -/
structure Credential where
  token : String
  claims : Claims
  deriving DecidableEq

namespace Credential

/-- A text as a segment of a token. -/
def segment (text : String) : String := Text.Base64url.encode (Text.Utf8.encode text)

/-- What is signed: the first two segments. -/
def signingInput (claims : Claims) (algorithm : Algorithm) : String :=
  segment (Header.ofAlgorithm algorithm).text ++ "." ++ segment claims.text

/-- The credential of some claims. -/
def sign (claims : Claims) (algorithm : Algorithm) (key : Bytes) : Credential where
  token :=
    let input := signingInput claims algorithm
    input ++ "." ++ Text.Base64url.encode (algorithm.sign key (Text.Utf8.encode input))
  claims := claims

/-- The credential as diagnostics show it: the token is left out. -/
def diagnostic (c : Credential) : String :=
  "Credential \x7b token: \"<redacted>\", claims: " ++ c.claims.diagnostic ++ " \x7d"

end Credential

end AccessDecision
