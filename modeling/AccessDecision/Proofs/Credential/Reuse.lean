import AccessDecision.Proofs.Credential.Run

set_option autoImplicit false

/-! # What a cache hands out

The history of a run decides each call: `Cache.Run.reuse_policy` says when a credential is handed
out again, when one is minted and what that draws. Since the refresh margin is not negative, a
credential that is handed out again has not expired, whatever the clock did in between. With the
token being genuine this is the contract of an issuer, `Cache.Run.issue_accepted`. -/

namespace AccessDecision.Cache.Run

variable {r : Run} {n : Nat} {now : Instant} {credential : Credential}

/-! ## Reusing -/

theorem reusesAt_iff_reusable (hcalled : r.actions[n]? = some (.issue now)) :
    r.ReusesAt n now credential ↔ r.cache.reusable? now (r.state n) = some credential := by
  constructor
  · intro h
    cases hreusable : r.cache.reusable? now (r.state n) with
    | some other =>
      have hother := (issue_of_reusable hreusable).symm.trans h.issue_eq
      simp only [Prod.mk.injEq, Except.ok.injEq, and_true] at hother
      rw [hother]
    | none =>
      cases hvalid : r.cache.issuer.identity.validate with
      | ok => exact absurd h (mintsAt_of_not_reusable hvalid hcalled hreusable).not_reusesAt
      | error error =>
        have herror := (issue_of_invalid hvalid hreusable).symm.trans h.issue_eq
        exact absurd (congrArg Prod.fst herror) (by simp)
  · exact reusesAt_of_reusable hcalled

/-- What can be handed out again, told from the history alone. -/
theorem reusable_iff_stands :
    r.cache.reusable? now (r.state n) = some credential ↔
      ∃ k minted, r.Stands n k minted credential ∧
        now.seconds + r.cache.margin.seconds.toNat < minted.seconds + Claims.lifetime := by
  rw [reusable?_eq_some_iff, held_eq_some_iff]
  constructor
  · rintro ⟨⟨k, minted, hstands⟩, hfresh⟩
    rw [hstands.mints.signed, fresh_sign_iff] at hfresh
    exact ⟨k, minted, hstands, hfresh⟩
  · rintro ⟨k, minted, hstands, hfresh⟩
    refine ⟨⟨k, minted, hstands⟩, ?_⟩
    rw [hstands.mints.signed, fresh_sign_iff]
    exact hfresh

/-! ## Drawing -/

/-- The action of number `n` is one that draws: a call that mints, or asking the issuer directly. -/
def DrawsAt (r : Run) (n : Nat) : Prop :=
  (∃ now credential, r.MintsAt n now credential) ∨ ∃ now, r.actions[n]? = some (.direct now)

theorem entropy_succ_of_drawsAt (hvalid : r.cache.issuer.identity.validate = .ok ())
    (h : r.DrawsAt n) : (r.state (n + 1)).entropy = (r.state n).entropy.advance := by
  rcases h with ⟨now, credential, hmints⟩ | ⟨now, hdirect⟩
  · rw [hmints.state_succ]
  · rw [state_succ hdirect, step_direct, Issuer.issue_of_validate_eq_ok hvalid]

theorem entropy_succ_of_not_drawsAt (hvalid : r.cache.issuer.identity.validate = .ok ())
    (h : ¬ r.DrawsAt n) : (r.state (n + 1)).entropy = (r.state n).entropy := by
  cases haction : r.actions[n]? with
  | none => rw [state_succ_of_none haction]
  | some action =>
    cases action with
    | direct now => exact absurd (Or.inr ⟨now, haction⟩) h
    | invalidate => rw [state_succ haction, step, invalidate]
    | issue now =>
      cases hreusable : r.cache.reusable? now (r.state n) with
      | some credential => rw [(reusesAt_of_reusable haction hreusable).state_succ]
      | none =>
        -- with a valid identity this call would mint
        have hmints := mintsAt_of_not_reusable hvalid haction hreusable
        exact absurd (Or.inl ⟨now, _, hmints⟩) h

/-! ## An identity that cannot sign -/

/-- Without a way to sign nothing is ever held and nothing is ever drawn. -/
theorem state_of_invalid {error : CredentialError}
    (hinvalid : r.cache.issuer.identity.validate = .error error) (n : Nat) :
    r.state n = ⟨none, r.entropy⟩ := by
  induction n with
  | zero => exact state_zero
  | succ n ih =>
    cases haction : r.actions[n]? with
    | none => rw [state_succ_of_none haction, ih]
    | some action =>
      rw [state_succ haction, ih]
      cases action with
      | direct now => rw [step_direct, Issuer.issue_of_validate_eq_error hinvalid]
      | invalidate => rfl
      | issue now =>
        rw [step, issue_of_invalid hinvalid rfl]

/-! ## The policy and the contract -/

/-- **Reuse.** A call reuses exactly what the latest mint before it left, if nothing was invalidated
    since and the expiry, 86400 seconds after that mint, lies further ahead than the margin; nothing
    is cut off here, so the margin may be any number of 64 bits and the clock may go back. Every
    other call mints a credential of its own instant, and what is held is always what the latest
    mint left. Nonces are drawn by the calls that mint and by the issuer itself, one at a time, and
    by nothing else. An identity that cannot sign gets the issuer's error each time and leaves no
    trace. -/
theorem reuse_policy (r : Run) :
    (r.cache.issuer.identity.validate = .ok () →
      (∀ n now, r.actions[n]? = some (.issue now) →
        (∀ credential, r.ReusesAt n now credential ↔
          ∃ k minted, r.Stands n k minted credential ∧
            now.seconds + r.cache.margin.seconds.toNat < minted.seconds + 86400) ∧
        ((∀ k minted credential, r.Stands n k minted credential →
            minted.seconds + 86400 ≤ now.seconds + r.cache.margin.seconds.toNat) →
          ∃ credential, r.MintsAt n now credential ∧
            credential.claims.issuedAt.toInt = now.seconds)) ∧
      (∀ n credential, (r.state n).held = some credential ↔
        ∃ k minted, r.Stands n k minted credential) ∧
      (∀ n, r.DrawsAt n → (r.state (n + 1)).entropy = (r.state n).entropy.advance) ∧
      (∀ n, ¬ r.DrawsAt n → (r.state (n + 1)).entropy = (r.state n).entropy)) ∧
    (∀ error, r.cache.issuer.identity.validate = .error error →
      ∀ n, r.state n = ⟨none, r.entropy⟩ ∧
        ∀ now, (r.cache.issuer.issue now r.entropy).1 = .error error ∧
          r.cache.issue now (r.state n) = (.error error, [], ⟨none, r.entropy⟩)) := by
  constructor
  · intro hvalid
    refine ⟨?_, fun n credential => held_eq_some_iff, fun n => entropy_succ_of_drawsAt hvalid,
      fun n => entropy_succ_of_not_drawsAt hvalid⟩
    intro n now hcalled
    refine ⟨fun credential => (reusesAt_iff_reusable hcalled).trans reusable_iff_stands, ?_⟩
    intro hstale
    have hreusable : r.cache.reusable? now (r.state n) = none := by
      rw [Option.eq_none_iff_forall_ne_some]
      intro credential h
      obtain ⟨k, minted, hstands, hfresh⟩ := reusable_iff_stands.1 h
      exact absurd hfresh (Int.not_lt.2 (hstale k minted credential hstands))
    refine ⟨_, mintsAt_of_not_reusable hvalid hcalled hreusable, ?_⟩
    exact Claims.toInt_issuedAt_issue ..
  · intro error hinvalid n
    have hstate := state_of_invalid hinvalid n
    refine ⟨hstate, ?_⟩
    intro now
    rw [Issuer.issue_of_validate_eq_error hinvalid, hstate]
    exact ⟨rfl, issue_of_invalid hinvalid rfl⟩

/-- Three calls with a margin of five minutes: the second comes one second before the margin and
    reuses, the third is on it and mints. Without a secret the same calls fail. -/
theorem reuse_policy_around_margin :
    let before : Instant := ⟨86099, 0, by decide, by decide, by decide⟩
    let reached : Instant := ⟨86100, 0, by decide, by decide, by decide⟩
    let run (secret : String) : Run := ⟨⟨⟨⟨"svc", secret⟩, .hs256, none⟩, Cache.defaultMargin⟩,
      .countingFrom 7, [.issue .epoch, .issue before, .issue reached]⟩
    (run "s").cache.issuer.identity.validate = .ok () ∧
      (∃ credential, (run "s").MintsAt 0 .epoch credential ∧
        (run "s").ReusesAt 1 before credential) ∧
      (∃ credential, (run "s").MintsAt 2 reached credential) ∧
      (run "").cache.issuer.identity.validate =
        .error (.configuration "client secret is missing or empty") ∧
      (run "").state 3 = ⟨none, .countingFrom 7⟩ := by
  intro before reached run
  have hvalid : (run "s").cache.issuer.identity.validate = .ok () :=
    Identity.validate_eq_ok_iff.2 ⟨by decide +kernel, by decide⟩
  have hinvalid : (run "").cache.issuer.identity.validate =
      .error (.configuration "client secret is missing or empty") := by
    rw [Identity.validate, if_neg (by decide +kernel), if_pos (by decide)]
  obtain ⟨hcalls, -⟩ := (reuse_policy (run "s")).1 hvalid
  obtain ⟨first, hfirst, -⟩ := (hcalls 0 .epoch rfl).2 fun k _ _ h =>
    absurd h.lt (Nat.not_lt_zero k)
  have hreuses : (run "s").ReusesAt 1 before first :=
    ((hcalls 1 before rfl).1 first).2 ⟨0, .epoch, hfirst.stands_succ, by decide⟩
  obtain ⟨third, hthird, -⟩ := (hcalls 2 reached rfl).2 <| by
    intro k minted credential h
    have hlt := h.lt
    have hk : k ≠ 1 := by
      rintro rfl
      obtain rfl : before = minted := by
        have hcalled := hreuses.called.symm.trans h.mints.called
        simpa using hcalled
      exact h.mints.not_reusesAt hreuses
    obtain rfl : k = 0 := by omega
    have hminted := hfirst.called.symm.trans h.mints.called
    simp only [Option.some.injEq, Action.issue.injEq] at hminted
    rw [← hminted]
    decide
  exact ⟨hvalid, ⟨first, hfirst, hreuses⟩, ⟨third, hthird⟩, hinvalid,
    ((reuse_policy (run "")).2 _ hinvalid 3).1⟩

/-- **The contract of an issuer.** However the calls, the invalidations and the issuer's own
    credentials follow one another and wherever the clock goes, each call gets a credential that the
    issuer's verifier accepts at that instant with exactly its claims. These are of the identity and
    the issuer name that are configured, expire a day after the issue, and have not expired. -/
theorem issue_accepted (r : Run) (hvalid : r.cache.issuer.identity.validate = .ok ()) (n : Nat)
    (now : Instant) :
    ∃ credential, (r.cache.issue now (r.state n)).1 = .ok credential ∧
      r.cache.issuer.verifier.verify credential.token now = .ok credential.claims ∧
      credential.claims.clientId = r.cache.issuer.identity.clientId ∧
      credential.claims.issuer = r.cache.issuer.name ∧
      credential.claims.expiresAt.toInt = credential.claims.issuedAt.toInt + 86400 ∧
      credential.claims.expiredAt now = false := by
  cases hreusable : r.cache.reusable? now (r.state n) with
  | some credential =>
    obtain ⟨k, minted, hstands, hfresh⟩ := reusable_iff_stands.1 hreusable
    refine ⟨credential, by rw [issue_of_reusable hreusable], ?_⟩
    rw [hstands.mints.signed]
    -- the margin is not negative, so being fresh is more than not having expired
    exact Issuer.sign_accepted (by omega)
  | none =>
    -- a new credential is accepted at the instant of its own issue
    have hlifetime : Claims.lifetime = 86400 := rfl
    refine ⟨_, by rw [issue_of_valid hvalid hreusable], ?_⟩
    exact Issuer.sign_accepted (by omega)

/-- After a credential of the far end of the calendar, with no margin and the clock set back by half
    a million years. -/
theorem issue_accepted_back_in_time :
    let latest : Instant := ⟨8210266876799, 0, by decide, by decide, by decide⟩
    let earliest : Instant := ⟨-8334601228800, 0, by decide, by decide, by decide⟩
    let r : Run := ⟨⟨⟨⟨"svc", "s"⟩, .hs384, some "idp"⟩, .ofSeconds 0⟩, .countingFrom 7,
      [.issue latest, .direct .epoch]⟩
    r.cache.issuer.identity.validate = .ok () ∧
      ∃ credential, (r.cache.issue earliest (r.state 2)).1 = .ok credential ∧
        r.cache.issuer.verifier.verify credential.token earliest = .ok credential.claims ∧
        credential.claims.clientId = "svc" ∧ credential.claims.issuer = some "idp" := by
  intro latest earliest r
  have hvalid : r.cache.issuer.identity.validate = .ok () :=
    Identity.validate_eq_ok_iff.2 ⟨by decide +kernel, by decide⟩
  obtain ⟨credential, hissue, hverify, hclient, hissuer, -⟩ := issue_accepted r hvalid 2 earliest
  exact ⟨hvalid, credential, hissue, hverify, hclient, hissuer⟩

end AccessDecision.Cache.Run
