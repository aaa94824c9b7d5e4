import AccessDecision.Credential.Error
import AccessDecision.Digest.Hmac
import AccessDecision.Json.Record
import AccessDecision.Text.Blank

set_option autoImplicit false

/-! # Signing algorithms

A credential is signed with a keyed digest of the SHA-2 family. -/

namespace AccessDecision

inductive Algorithm where
  | hs256
  | hs384
  | hs512
  deriving DecidableEq, Repr, Inhabited

namespace Algorithm

def name : Algorithm → String
  | .hs256 => "HS256"
  | .hs384 => "HS384"
  | .hs512 => "HS512"

def all : List Algorithm := [.hs256, .hs384, .hs512]

/-- The algorithm of exactly this name. -/
def named? (name : String) : Option Algorithm := all.find? (·.name = name)

/-- The algorithm that a text names, in any ASCII case and with white space around it. -/
def parse (text : String) : Except CredentialError Algorithm :=
  match named? (String.ofList ((Text.trimChars text.toList).map Char.toUpper)) with
  | some a => .ok a
  | none => .error (.signing ("unsupported algorithm '" ++ text ++ "'"))

/-- The algorithm of a JSON text, which holds its exact name. -/
def readJson (input : Bytes) : Except Json.Error Algorithm := do
  let name ← Json.readAll (Json.readVariant (all.map name)) input
  .ok ((named? name).getD default)

def toJson (a : Algorithm) : Json := .string a.name

def hash : Algorithm → Digest.Hash
  | .hs256 => Digest.sha256.hash
  | .hs384 => Digest.sha384.hash
  | .hs512 => Digest.sha512.hash

/-- The signature of a message. -/
def sign (a : Algorithm) (key message : Bytes) : Bytes := Digest.Hmac.mac a.hash key message

/-- Whether a signature is the one of a message, in full. -/
def verify (a : Algorithm) (key message signature : Bytes) : Bool := a.sign key message = signature

end Algorithm

end AccessDecision
