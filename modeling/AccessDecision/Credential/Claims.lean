import AccessDecision.Instant
import AccessDecision.Json.Record
import AccessDecision.Text.Base64url

set_option autoImplicit false

/-! # Claims

What a credential says: whose it is, when it was issued and when it expires, both in seconds since
the epoch, who issued it, and an id of its own. `Claims.text` writes the claims and `Claims.read`
reads them. -/

namespace AccessDecision

/-- The random number that tells two credentials apart. -/
abbrev Nonce := BitVec 128

structure Claims where
  clientId : String
  issuedAt : Int64
  expiresAt : Int64
  issuer : Option String
  id : String
  deriving DecidableEq

namespace Claims

/-- How long a credential is valid, in seconds. -/
def lifetime : Int := 24 * 60 * 60

/-- The claims of a credential that is issued now. -/
def issue (clientId : String) (now : Instant) (issuer : Option String) (nonce : Nonce) :
    Claims where
  clientId := clientId
  issuedAt := Int64.ofInt now.seconds
  expiresAt := Int64.ofInt (now.seconds + lifetime)
  issuer := issuer
  id := Text.Base64url.encode (Bytes.bigEndian 16 nonce.toNat)

/-- The instant of issue. -/
def issuedInstant (c : Claims) : Instant := .ofSeconds c.issuedAt.toInt

/-- The instant of expiry. -/
def expiryInstant (c : Claims) : Instant := .ofSeconds c.expiresAt.toInt

/-- A credential has expired from its expiry on; only whole seconds count. -/
def expiredAt (c : Claims) (now : Instant) : Bool := c.expiresAt.toInt ≤ now.seconds

/-! ## As JSON -/

def members (c : Claims) : List (String × Json) :=
  ("client_id", .string c.clientId) :: ("iat", .whole (.ofInt64 c.issuedAt)) ::
    ("exp", .whole (.ofInt64 c.expiresAt)) ::
    (c.issuer.toList.map fun name => ("iss", .string name)) ++ [("jti", .string c.id)]

/-- The issuer is left out if there is none. -/
def text (c : Claims) : String := (Json.object c.members).text

def layout : Json.Layout where
  title := "Claims"
  fields := [
    { name := "client_id", kind := .string },
    { name := "iat", kind := .int64 },
    { name := "exp", kind := .int64 },
    { name := "iss", kind := .optionalString, required := false },
    { name := "jti", kind := .string }]

def ofAssignment (a : Json.Assignment) : Except Json.Cause Claims := do
  let clientId ← a.string "client_id"
  let issuedAt ← a.int64 "iat"
  let expiresAt ← a.int64 "exp"
  let issuer ← a.optionalString "iss"
  let id ← a.string "jti"
  .ok ⟨clientId, issuedAt, expiresAt, issuer, id⟩

/-- The claims of a text. -/
def read (input : Bytes) : Except Json.Error Claims := layout.read ofAssignment input

/-- The claims of a value. -/
def ofJson (v : Json) : Except Json.Error Claims :=
  (layout.ofJson ofAssignment v).mapError (⟨·, none⟩)

/-- The claims as diagnostics show them. -/
def diagnostic (c : Claims) : String :=
  "Claims \x7b client_id: " ++ Text.quoted c.clientId ++ ", iat: " ++
    Text.intText c.issuedAt.toInt ++ ", exp: " ++ Text.intText c.expiresAt.toInt ++ ", iss: " ++
    Text.optional (c.issuer.map Text.quoted) ++ ", jti: " ++ Text.quoted c.id ++ " \x7d"

end Claims

end AccessDecision
