import AccessDecision.Proofs.Credential.Margin
import AccessDecision.Proofs.Credential.Source
import AccessDecision.Proofs.Instant.Text

set_option autoImplicit false

/-! # How long a credential lives

A credential shows its expiry in three ways: as a number of seconds among its claims, as an instant
of the calendar, and as a text in the log. They agree for whatever is issued until a day before the
calendar ends (`Issuer.lifetime_of_issued`). The number goes on after that, and so does the question
whether the credential has expired, but an instant beyond the calendar is the epoch instead, in the
log as well (`Issuer.lifetime_of_last_day`). -/

namespace AccessDecision

/-! ## Whole seconds -/

namespace Instant

/-- The last second of the calendar. -/
def lastSecond : Int := 8210266876799

variable {seconds : Int}

theorem ofSeconds_of_le (hmin : -8334601228800 ≤ seconds) (hmax : seconds ≤ lastSecond) :
    (ofSeconds seconds).seconds = seconds ∧ (ofSeconds seconds).nanos = 0 := by
  rw [ofSeconds, of?, dif_pos ⟨hmin, hmax, by decide⟩]
  exact ⟨rfl, rfl⟩

/-- A second that the calendar does not reach is taken for the epoch. -/
theorem ofSeconds_of_lt (h : lastSecond < seconds) : ofSeconds seconds = epoch := by
  rw [ofSeconds, of?, dif_neg fun hrange => Int.not_le.2 h hrange.2.1]
  rfl

/-- An instant has come to a second if its own second has. -/
theorem le_toNanos_iff (now : Instant) :
    seconds * nanosPerSecond ≤ now.toNanos ↔ seconds ≤ now.seconds := by
  have hnanos := now.nanos_lt
  simp only [toNanos, nanosPerSecond]
  omega

end Instant

/-! ## What the log shows -/

/-- The log names the second of the expiry as the calendar has it, and no other one. -/
theorem Credential.fields_issuedEvent (c : Credential) : ∃ s,
    c.issuedEvent.fields = [("client_id", .string c.claims.clientId), ("expires_at", .string s)] ∧
      ∀ second, Instant.Names s second ↔ second = c.claims.expiryInstant.seconds := by
  refine ⟨c.claims.expiryInstant.text, rfl, ?_⟩
  intro second
  constructor
  · intro h
    exact h.unique (Instant.names_text _)
  · rintro rfl
    exact Instant.names_text _

namespace Issuer

variable (i : Issuer) (t : Instant) (nonce : Nonce)

theorem toInt_issuedAt_sign : (i.sign t nonce).claims.issuedAt.toInt = t.seconds :=
  Claims.toInt_issuedAt_issue ..

/-- The issue, by the calendar, is the start of its second. -/
theorem toNanos_issuedInstant_sign :
    (i.sign t nonce).claims.issuedInstant.toNanos = t.seconds * nanosPerSecond := by
  obtain ⟨hseconds, hnanos⟩ := Instant.ofSeconds_of_le t.min_le t.le_max
  rw [Claims.issuedInstant, toInt_issuedAt_sign, Instant.toNanos, hseconds, hnanos]
  exact Int.add_zero _

/-! ## The three views -/

section Calendar

variable {t} (h : t.seconds + 86400 ≤ Instant.lastSecond)

include h

theorem toNanos_expiryInstant_sign :
    (i.sign t nonce).claims.expiryInstant.toNanos = (t.seconds + 86400) * nanosPerSecond := by
  have hmin : -8334601228800 ≤ t.seconds + 86400 := by
    have hstart := t.min_le
    omega
  obtain ⟨hseconds, hnanos⟩ := Instant.ofSeconds_of_le hmin h
  rw [Claims.expiryInstant, toInt_expiresAt_sign, show Claims.lifetime = 86400 from rfl,
    Instant.toNanos, hseconds, hnanos]
  exact Int.add_zero _

theorem expiredAt_sign_iff (now : Instant) :
    (i.sign t nonce).claims.expiredAt now = true ↔
      (i.sign t nonce).claims.expiryInstant.toNanos ≤ now.toNanos := by
  rw [toNanos_expiryInstant_sign i nonce h, Instant.le_toNanos_iff, Claims.expiredAt,
    decide_eq_true_eq, toInt_expiresAt_sign]
  rfl

end Calendar

section LastDay

variable {t} (h : Instant.lastSecond < t.seconds + 86400)

include h

theorem expiryInstant_sign_of_last_day :
    (i.sign t nonce).claims.expiryInstant = .epoch := by
  rw [Claims.expiryInstant, toInt_expiresAt_sign]
  exact Instant.ofSeconds_of_lt h

theorem expiredAt_sign_of_last_day (now : Instant) :
    (i.sign t nonce).claims.expiredAt now = false := by
  have hmax := now.le_max
  rw [Claims.expiredAt_eq_false_iff, toInt_expiresAt_sign]
  exact Int.lt_of_le_of_lt hmax h

end LastDay

/-- **The lifetime of a credential.** An identity that can sign gets a credential at every instant.
    Its seconds of issue and of expiry are exact, a day apart, and the calendar shows the issue as
    the start of its second. Until a day before its end the calendar shows the expiry a day later,
    and a credential has expired from that instant on. On its last day it shows the epoch as the
    expiry, though the credential never expires within it. What the log shows is always what the
    calendar shows. -/
theorem lifetime_of_issued (hclient : Text.isBlank i.identity.clientId = false)
    (hsecret : i.identity.clientSecret ≠ "") (state : Cache.State) : ∃ credential,
    (Source.issuer i).issue t state =
        (.ok credential, [credential.issuedEvent], { state with entropy := state.entropy.advance }) ∧
      credential.claims.issuedAt.toInt = t.seconds ∧
      credential.claims.expiresAt.toInt = credential.claims.issuedAt.toInt + 86400 ∧
      credential.claims.issuedInstant.toNanos = t.seconds * nanosPerSecond ∧
      (t.seconds + 86400 ≤ Instant.lastSecond →
        credential.claims.expiryInstant.toNanos =
            credential.claims.issuedInstant.toNanos + 24 * 60 * 60 * nanosPerSecond ∧
          ∀ now, credential.claims.expiredAt now = true ↔
            credential.claims.expiryInstant.toNanos ≤ now.toNanos) ∧
      (Instant.lastSecond < t.seconds + 86400 →
        credential.claims.expiryInstant = .epoch ∧
          ∀ now, credential.claims.expiredAt now = false) ∧
      ∃ s, credential.issuedEvent.fields =
          [("client_id", .string i.identity.clientId), ("expires_at", .string s)] ∧
        ∀ second, Instant.Names s second ↔ second = credential.claims.expiryInstant.seconds := by
  have hvalid := Identity.validate_eq_ok_iff.2 ⟨hclient, hsecret⟩
  have hissued := i.toInt_issuedAt_sign t state.entropy.current
  have hissuedInstant := i.toNanos_issuedInstant_sign t state.entropy.current
  refine ⟨i.sign t state.entropy.current, Source.issue_issuer_of_valid hvalid t state, hissued,
    ?_, hissuedInstant, ?_, ?_, (i.sign t state.entropy.current).fields_issuedEvent⟩
  · rw [toInt_expiresAt_sign, hissued]
    rfl
  · intro hcalendar
    refine ⟨?_, i.expiredAt_sign_iff state.entropy.current hcalendar⟩
    rw [i.toNanos_expiryInstant_sign state.entropy.current hcalendar, hissuedInstant, Int.add_mul]
    rfl
  · intro hlast
    exact ⟨i.expiryInstant_sign_of_last_day state.entropy.current hlast,
      i.expiredAt_sign_of_last_day state.entropy.current hlast⟩

/-- At the last instant whose credential the calendar follows to its end, and a second later. -/
theorem lifetime_of_issued_around_last_day :
    let i : Issuer := ⟨⟨"svc", "secret"⟩, .hs256, none⟩
    let state : Cache.State := ⟨none, .countingFrom 0⟩
    let early : Instant := ⟨8210266790399, 999999999, by decide, by decide, by decide⟩
    let late : Instant := ⟨8210266790400, 0, by decide, by decide, by decide⟩
    Text.isBlank i.identity.clientId = false ∧ i.identity.clientSecret ≠ "" ∧
      early.seconds + 86400 ≤ Instant.lastSecond ∧
      (∃ credential, ((Source.issuer i).issue early state).1 = .ok credential ∧
        credential.claims.expiryInstant.toNanos = Instant.lastSecond * nanosPerSecond) ∧
      Instant.lastSecond < late.seconds + 86400 ∧
      ∃ credential, ((Source.issuer i).issue late state).1 = .ok credential ∧
        credential.claims.expiryInstant = .epoch := by
  intro i state early late
  have hclient : Text.isBlank i.identity.clientId = false := by decide +kernel
  have hsecret : i.identity.clientSecret ≠ "" := by decide
  obtain ⟨credential, hissue, -, -, hissued, hcalendar, -⟩ :=
    lifetime_of_issued i early hclient hsecret state
  obtain ⟨other, hother, -, -, -, -, hlast, -⟩ := lifetime_of_issued i late hclient hsecret state
  refine ⟨hclient, hsecret, by decide, ⟨credential, by rw [hissue], ?_⟩, by decide,
    other, by rw [hother], (hlast (by decide)).1⟩
  rw [(hcalendar (by decide)).1, hissued]
  rfl

/-- On the last day of the calendar a new credential shows, and logs, that it expired long ago, and
    at that very instant it has not expired. -/
theorem lifetime_of_last_day :
    let i : Issuer := ⟨⟨"svc", "secret"⟩, .hs256, none⟩
    let t : Instant := ⟨8210266790400, 0, by decide, by decide, by decide⟩
    ∃ credential, ((Source.issuer i).issue t ⟨none, .countingFrom 0⟩).1 = .ok credential ∧
      credential.claims.expiresAt.toInt = 8210266876800 ∧
      credential.claims.issuedInstant.toNanos = t.toNanos ∧
      credential.claims.expiryInstant = .epoch ∧
      credential.claims.expiryInstant.toNanos ≤ t.toNanos ∧
      credential.claims.expiredAt t = false ∧
      credential.issuedEvent.fields =
        [("client_id", .string "svc"), ("expires_at", .string "1970-01-01 00:00:00 UTC")] := by
  intro i t
  have hvalid : i.identity.validate = .ok () :=
    Identity.validate_eq_ok_iff.2 ⟨by decide +kernel, by decide⟩
  have hlast : Instant.lastSecond < t.seconds + 86400 := by decide
  have hseconds : t.seconds + Claims.lifetime = 8210266876800 := by decide
  have hnanos : t.seconds * nanosPerSecond = t.toNanos := by decide
  have htext : Instant.epoch.text = "1970-01-01 00:00:00 UTC" := by decide +kernel
  have hexpiry := i.expiryInstant_sign_of_last_day (Entropy.countingFrom 0).current hlast
  refine ⟨_, by rw [Source.issue_issuer_of_valid hvalid], (toInt_expiresAt_sign ..).trans hseconds,
    (i.toNanos_issuedInstant_sign t _).trans hnanos, hexpiry, ?_,
    i.expiredAt_sign_of_last_day _ hlast t, ?_⟩
  · rw [hexpiry]
    decide
  · rw [Credential.issuedEvent, Event.fields, hexpiry, htext]
    rfl

end Issuer

end AccessDecision
