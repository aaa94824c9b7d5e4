import AccessDecision.Credential.Issuer

set_option autoImplicit false

/-! # Reusing credentials

A cache holds at most one credential and hands it out again until it comes within the refresh margin
of its expiry. Only whole seconds count, of the clock and of the margin. `Source` is what a client
gets its credentials from: an issuer, or a cache in front of one. -/

namespace AccessDecision

structure Cache where
  issuer : Issuer
  /-- How long before its expiry a credential is no longer handed out. -/
  margin : Duration

namespace Cache

def defaultMargin : Duration := .ofSeconds 300

/-- What changes while credentials are handed out. -/
structure State where
  held : Option Credential
  entropy : Entropy

/-- The sum of two numbers, kept within 64 bits with sign. -/
def saturatingAdd (a b : Int) : Int :=
  max (-0x8000000000000000) (min 0x7FFFFFFFFFFFFFFF (a + b))

/-- Whether a credential that is held can be handed out again. -/
def fresh (c : Cache) (now : Instant) (credential : Credential) : Bool :=
  let margin : Int := min (c.margin.seconds.toNat : Int) 0x7FFFFFFFFFFFFFFF
  saturatingAdd now.seconds margin < credential.claims.expiresAt.toInt

/-- The credential that is held and still fresh. -/
def reusable? (c : Cache) (now : Instant) (s : State) : Option Credential :=
  s.held.filter (c.fresh now)

/-- A credential for now, the log of the call, and the state after it. A failure leaves the state
alone. -/
def issue (c : Cache) (now : Instant) (s : State) :
    Except CredentialError Credential × List Event × State :=
  match c.reusable? now s with
  | some credential => (.ok credential, [], s)
  | none =>
    match c.issuer.issue now s.entropy with
    | (.ok credential, entropy) =>
      (.ok credential, [credential.issuedEvent], ⟨some credential, entropy⟩)
    | (.error error, entropy) => (.error error, [], { s with entropy })

/-- Forgets the credential that is held. -/
def invalidate (s : State) : State := { s with held := none }

/-- The cache as diagnostics show it. What is held is behind a lock, which shows what it guards in a
way of its own. -/
def diagnostic (c : Cache) (lock : String → String) (s : State) : String :=
  "CredentialCache \x7b issuer: " ++ c.issuer.diagnostic ++ ", refresh_margin: " ++
    c.margin.diagnostic ++ ", current: " ++
    lock (Text.optional (s.held.map Credential.diagnostic)) ++ " \x7d"

end Cache

/-- Where credentials come from. -/
inductive Source where
  | issuer (i : Issuer)
  | cache (c : Cache)

namespace Source

/-- The issuer behind it. -/
def base : Source → Issuer
  | .issuer i => i
  | .cache c => c.issuer

/-- A credential for now, the log of the call, and the state after it. -/
def issue (source : Source) (now : Instant) (s : Cache.State) :
    Except CredentialError Credential × List Event × Cache.State :=
  match source with
  | .cache c => c.issue now s
  | .issuer i =>
    match i.issue now s.entropy with
    | (.ok credential, entropy) => (.ok credential, [credential.issuedEvent], { s with entropy })
    | (.error error, entropy) => (.error error, [], { s with entropy })

end Source

end AccessDecision
