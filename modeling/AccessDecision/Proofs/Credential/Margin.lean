import AccessDecision.Proofs.Credential.Reuse

set_option autoImplicit false

/-! # The refresh margin to the nanosecond

A cache compares whole seconds: it drops the fractions of the margin and of the clock before it
looks at the expiry. A margin of whole seconds is kept exactly all the same, since the comparison is
strict and the expiry is a whole second. A fraction of the margin counts for nothing, so the time
that is left may fall short of the margin by less than a second (`Cache.Run.reuse_margin`). -/

namespace AccessDecision

/-- Nanoseconds in a second. -/
def nanosPerSecond : Int := 1000000000

/-- An instant in nanoseconds since the epoch. -/
def Instant.toNanos (t : Instant) : Int := t.seconds * nanosPerSecond + t.nanos

/-- A duration in nanoseconds. -/
def Duration.toNanos (d : Duration) : Int := d.seconds.toNat * nanosPerSecond + d.nanos

/-- The exact time from an instant to the second of the expiry, in nanoseconds. -/
def Claims.timeLeft (c : Claims) (now : Instant) : Int :=
  c.expiresAt.toInt * nanosPerSecond - now.toNanos

/-- How far the time that is left exceeds a margin: by whole seconds, less the fractions of the
    clock and of the margin. -/
theorem Claims.timeLeft_sub_toNanos (c : Claims) (now : Instant) (margin : Duration) :
    c.timeLeft now - margin.toNanos =
      (c.expiresAt.toInt - (now.seconds + margin.seconds.toNat)) * nanosPerSecond -
        (now.nanos + margin.nanos) := by
  simp only [timeLeft, Instant.toNanos, Duration.toNanos, nanosPerSecond]
  omega

namespace Cache.Run

variable {r : Run} {n : Nat} {now : Instant} {credential : Credential}

/-- A call reuses what is held exactly if more whole seconds are left than the margin has. -/
theorem reusesAt_iff_seconds (hcalled : r.actions[n]? = some (.issue now)) :
    r.ReusesAt n now credential ↔ (r.state n).held = some credential ∧
      now.seconds + r.cache.margin.seconds.toNat < credential.claims.expiresAt.toInt := by
  rw [reusesAt_iff_reusable hcalled, reusable?_eq_some_iff]
  refine and_congr_right fun hheld => ?_
  obtain ⟨k, minted, hstands⟩ := held_eq_some_iff.1 hheld
  rw [hstands.mints.signed, fresh_sign_iff, Issuer.toInt_expiresAt_sign]

/-- What the first call mints is held. -/
theorem held_of_first_call (hvalid : r.cache.issuer.identity.validate = .ok ())
    (hcalled : r.actions[0]? = some (.issue now)) :
    (r.state 1).held = some (r.cache.issuer.sign now (r.state 0).entropy.current) := by
  have hmints := mintsAt_of_not_reusable hvalid hcalled rfl
  exact congrArg State.held hmints.state_succ

/-- **The refresh margin.** A credential is reused only if the time that is left, to the nanosecond,
    is greater than the whole seconds of the margin. It is not greater than the margin itself in one
    case only: the next second is the one in which the whole seconds of the margin begin, and the
    fractions of the margin and of the clock make up at least a second. A credential with more time
    left than the margin is always reused, and for a margin of whole seconds no other one is. -/
theorem reuse_margin (hcalled : r.actions[n]? = some (.issue now)) :
    (r.ReusesAt n now credential → (r.state n).held = some credential ∧
      r.cache.margin.seconds.toNat * nanosPerSecond < credential.claims.timeLeft now ∧
      (credential.claims.timeLeft now ≤ r.cache.margin.toNanos ↔
        now.seconds + r.cache.margin.seconds.toNat + 1 = credential.claims.expiresAt.toInt ∧
          nanosPerSecond ≤ now.nanos + r.cache.margin.nanos)) ∧
    ((r.state n).held = some credential →
      r.cache.margin.toNanos < credential.claims.timeLeft now → r.ReusesAt n now credential) ∧
    (r.cache.margin.nanos = 0 → (r.ReusesAt n now credential ↔ (r.state n).held = some credential ∧
      r.cache.margin.toNanos < credential.claims.timeLeft now)) := by
  have hnow := now.nanos_lt
  have hmargin := r.cache.margin.nanos_lt
  have hexcess := credential.claims.timeLeft_sub_toNanos now r.cache.margin
  have htotal : r.cache.margin.toNanos =
      r.cache.margin.seconds.toNat * nanosPerSecond + r.cache.margin.nanos := rfl
  rw [reusesAt_iff_seconds hcalled]
  generalize credential.claims.timeLeft now = left at hexcess ⊢
  generalize r.cache.margin.toNanos = margin at hexcess htotal ⊢
  simp only [nanosPerSecond] at hexcess htotal ⊢
  refine ⟨?_, ?_, ?_⟩
  · rintro ⟨hheld, hseconds⟩
    -- at least one whole second is left beyond the margin's, and each fraction is less than one
    refine ⟨hheld, by omega, ?_⟩
    constructor
    · intro hshort
      omega
    · rintro ⟨hnext, hfractions⟩
      omega
  · intro hheld hleft
    exact ⟨hheld, by omega⟩
  · intro hwhole
    refine and_congr_right fun _ => ?_
    constructor
    · intro hseconds
      omega
    · intro hleft
      omega

/-- A second call with a margin of five minutes, a nanosecond before the margin begins. -/
theorem reuse_margin_last_nanosecond :
    let late : Instant := ⟨86099, 999999999, by decide, by decide, by decide⟩
    let r : Run := ⟨⟨⟨⟨"svc", "s"⟩, .hs256, none⟩, Cache.defaultMargin⟩, .countingFrom 7,
      [.issue .epoch, .issue late]⟩
    r.actions[1]? = some (.issue late) ∧ ∃ credential, r.ReusesAt 1 late credential ∧
      credential.claims.timeLeft late = r.cache.margin.toNanos + 1 := by
  intro late r
  have hvalid : r.cache.issuer.identity.validate = .ok () :=
    Identity.validate_eq_ok_iff.2 ⟨by decide +kernel, by decide⟩
  have hheld := held_of_first_call hvalid rfl
  have hleft : (r.cache.issuer.sign .epoch (r.state 0).entropy.current).claims.timeLeft late =
      r.cache.margin.toNanos + 1 := by
    rw [Claims.timeLeft, Issuer.toInt_expiresAt_sign]
    decide
  refine ⟨rfl, _, (reuse_margin rfl).2.1 hheld ?_, hleft⟩
  omega

/-- With a margin of two and a half seconds a credential that has 2.1 seconds left is reused: it has
    three whole seconds left when the fraction of the clock is dropped. -/
theorem reusesAt_within_margin :
    let late : Instant := ⟨86397, 900000000, by decide, by decide, by decide⟩
    let r : Run := ⟨⟨⟨⟨"svc", "s"⟩, .hs256, none⟩, ⟨2, 500000000, by decide⟩⟩, .countingFrom 0,
      [.issue .epoch, .issue late]⟩
    ∃ credential, r.ReusesAt 1 late credential ∧ credential.claims.timeLeft late = 2100000000 ∧
      credential.claims.timeLeft late < r.cache.margin.toNanos := by
  intro late r
  have hvalid : r.cache.issuer.identity.validate = .ok () :=
    Identity.validate_eq_ok_iff.2 ⟨by decide +kernel, by decide⟩
  have hheld := held_of_first_call hvalid rfl
  have hleft : (r.cache.issuer.sign .epoch (r.state 0).entropy.current).claims.timeLeft late =
      2100000000 := by
    rw [Claims.timeLeft, Issuer.toInt_expiresAt_sign]
    decide
  refine ⟨_, (reusesAt_iff_seconds rfl).2 ⟨hheld, ?_⟩, hleft, ?_⟩
  · rw [Issuer.toInt_expiresAt_sign]
    decide
  · rw [hleft]
    decide

end Cache.Run

end AccessDecision
