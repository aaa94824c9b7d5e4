import AccessDecision.Credential.Claims

set_option autoImplicit false

/-! # The time of claims

Claims hold seconds as signed 64-bit numbers. The calendar is far from their ends, so the instant of
issue and the expiry a day later are exact, and so is the comparison with the clock. -/

namespace AccessDecision.Claims

variable (clientId : String) (now : Instant) (issuer : Option String) (nonce : Nonce)

theorem toInt_issuedAt_issue : (issue clientId now issuer nonce).issuedAt.toInt = now.seconds := by
  have hmin := now.min_le
  have hmax := now.le_max
  exact Int64.toInt_ofInt_of_le (by omega) (by omega)

theorem toInt_expiresAt_issue :
    (issue clientId now issuer nonce).expiresAt.toInt = now.seconds + lifetime := by
  have hmin := now.min_le
  have hmax := now.le_max
  have hlifetime : lifetime = 86400 := rfl
  exact Int64.toInt_ofInt_of_le (by omega) (by omega)

theorem expiredAt_eq_false_iff {c : Claims} {now : Instant} :
    c.expiredAt now = false ↔ now.seconds < c.expiresAt.toInt := by
  rw [expiredAt, decide_eq_false_iff_not, Int.not_le]

end AccessDecision.Claims
