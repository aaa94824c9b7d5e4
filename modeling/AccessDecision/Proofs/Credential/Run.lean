import AccessDecision.Credential.Cache
import AccessDecision.Proofs.Credential.Issuance

set_option autoImplicit false

/-! # Runs of a cache

A run starts with nothing held. Its calls come at any instants, since the clock may go back, and
between them the cache may be emptied and its issuer asked directly. A call either reuses what is
held or mints, and what is held is always what the latest mint left, unless the cache was emptied
since: `Cache.Run.held_eq_some_iff`. -/

namespace AccessDecision.Cache

/-! ## One call -/

section Call

variable {c : Cache} {now minted : Instant} {s : State} {credential : Credential} {nonce : Nonce}

theorem reusable?_eq_some_iff :
    c.reusable? now s = some credential ↔
      s.held = some credential ∧ c.fresh now credential = true := by
  rw [reusable?, Option.filter_eq_some_iff]

theorem issue_of_reusable (h : c.reusable? now s = some credential) :
    c.issue now s = (.ok credential, [], s) := by
  rw [issue, h]

theorem issue_of_valid (hvalid : c.issuer.identity.validate = .ok ())
    (h : c.reusable? now s = none) :
    c.issue now s =
      (.ok (c.issuer.sign now s.entropy.current),
        [(c.issuer.sign now s.entropy.current).issuedEvent],
        ⟨some (c.issuer.sign now s.entropy.current), s.entropy.advance⟩) := by
  rw [issue, h, Issuer.issue_of_validate_eq_ok hvalid]

theorem issue_of_invalid {error : CredentialError}
    (hinvalid : c.issuer.identity.validate = .error error) (h : c.reusable? now s = none) :
    c.issue now s = (.error error, [], s) := by
  rw [issue, h, Issuer.issue_of_validate_eq_error hinvalid]

/-- Neither the margin nor the sum is ever cut off with an effect: the calendar ends long before 64
    bits do. -/
theorem fresh_sign_iff :
    c.fresh now (c.issuer.sign minted nonce) = true ↔
      now.seconds + c.margin.seconds.toNat < minted.seconds + Claims.lifetime := by
  have hlifetime : Claims.lifetime = 86400 := rfl
  have hnow := now.min_le
  have hminted := minted.le_max
  simp only [fresh, decide_eq_true_eq, Issuer.toInt_expiresAt_sign, saturatingAdd]
  omega

/-- A credential that is minted is handed out again before the margin of its expiry. -/
theorem issue_twice {later : Instant} (hvalid : c.issuer.identity.validate = .ok ())
    (h : c.reusable? now s = none)
    (hlater : later.seconds + c.margin.seconds.toNat < now.seconds + Claims.lifetime) :
    ∃ nonce log after, c.issue now s = (.ok (c.issuer.sign now nonce), log, after) ∧
      c.issue later after = (.ok (c.issuer.sign now nonce), [], after) :=
  ⟨_, _, _, issue_of_valid hvalid h,
    issue_of_reusable (reusable?_eq_some_iff.2 ⟨rfl, fresh_sign_iff.2 hlater⟩)⟩

end Call

/-! ## Runs -/

/-- What can happen to a cache. -/
inductive Action where
  | issue (now : Instant)
  | invalidate
  /-- The issuer is asked past the cache and draws from the same entropy. -/
  | direct (now : Instant)
  deriving DecidableEq

/-- The state after an action. -/
def step (c : Cache) (s : State) : Action → State
  | .issue now => (c.issue now s).2.2
  | .invalidate => invalidate s
  | .direct now => ((Source.issuer c.issuer).issue now s).2.2

/-- A cache, the entropy at its start and what happens to it, in this order. -/
structure Run where
  cache : Cache
  entropy : Entropy
  actions : List Action

namespace Run

/-- The state before the action of number `n`. -/
def state (r : Run) (n : Nat) : State := (r.actions.take n).foldl r.cache.step ⟨none, r.entropy⟩

/-- The call of number `n` mints: it draws a nonce, and it returns, logs and holds the credential
    that is signed with it. -/
structure MintsAt (r : Run) (n : Nat) (now : Instant) (credential : Credential) : Prop where
  called : r.actions[n]? = some (.issue now)
  signed : credential = r.cache.issuer.sign now (r.state n).entropy.current
  issue_eq : r.cache.issue now (r.state n) =
    (.ok credential, [credential.issuedEvent], ⟨some credential, (r.state n).entropy.advance⟩)

/-- The call of number `n` reuses: it returns the credential, logs nothing and leaves the state as
    it is, so it draws nothing. -/
structure ReusesAt (r : Run) (n : Nat) (now : Instant) (credential : Credential) : Prop where
  called : r.actions[n]? = some (.issue now)
  issue_eq : r.cache.issue now (r.state n) = (.ok credential, [], r.state n)

/-- The call of number `k` is the latest one before `n` that mints, and nothing is invalidated
    between them. -/
structure Stands (r : Run) (n k : Nat) (minted : Instant) (credential : Credential) : Prop where
  lt : k < n
  mints : r.MintsAt k minted credential
  latest : ∀ j, k < j → j < n → ∀ later other, ¬ r.MintsAt j later other
  kept : ∀ j, k < j → j < n → r.actions[j]? ≠ some .invalidate

variable {r : Run} {n k : Nat} {now minted : Instant} {action : Action}
  {credential other : Credential}

theorem state_zero : r.state 0 = ⟨none, r.entropy⟩ := by
  rw [state, List.take_zero, List.foldl_nil]

theorem state_succ (h : r.actions[n]? = some action) :
    r.state (n + 1) = r.cache.step (r.state n) action := by
  rw [state, List.take_add_one, h, Option.toList_some, List.foldl_append, List.foldl_cons,
    List.foldl_nil, state]

/-- After its last action a run stays where it is. -/
theorem state_succ_of_none (h : r.actions[n]? = none) : r.state (n + 1) = r.state n := by
  rw [state, List.take_add_one, h, Option.toList_none, List.append_nil, state]

theorem MintsAt.state_succ (h : r.MintsAt n now credential) :
    r.state (n + 1) = ⟨some credential, (r.state n).entropy.advance⟩ := by
  rw [Run.state_succ h.called, step, h.issue_eq]

theorem ReusesAt.state_succ (h : r.ReusesAt n now credential) : r.state (n + 1) = r.state n := by
  rw [Run.state_succ h.called, step, h.issue_eq]

/-- A call that mints does not reuse, since it draws. -/
theorem MintsAt.not_reusesAt (h : r.MintsAt n now credential) : ¬ r.ReusesAt n minted other := by
  intro hreuses
  have hdrawn := congrArg (·.entropy.drawn) (h.state_succ.symm.trans hreuses.state_succ)
  simp only [Entropy.advance] at hdrawn
  omega

theorem reusesAt_of_reusable (hcalled : r.actions[n]? = some (.issue now))
    (h : r.cache.reusable? now (r.state n) = some credential) : r.ReusesAt n now credential :=
  ⟨hcalled, issue_of_reusable h⟩

theorem mintsAt_of_not_reusable (hvalid : r.cache.issuer.identity.validate = .ok ())
    (hcalled : r.actions[n]? = some (.issue now)) (h : r.cache.reusable? now (r.state n) = none) :
    r.MintsAt n now (r.cache.issuer.sign now (r.state n).entropy.current) :=
  ⟨hcalled, rfl, issue_of_valid hvalid h⟩

/-! ## What is held -/

/-- Asking the issuer directly leaves alone what the cache holds. -/
theorem step_direct (c : Cache) (s : State) (now : Instant) :
    c.step s (.direct now) = ⟨s.held, (c.issuer.issue now s.entropy).2⟩ := by
  simp only [step, Source.issue]
  cases hvalid : c.issuer.identity.validate with
  | ok => rw [Issuer.issue_of_validate_eq_ok hvalid]
  | error error => rw [Issuer.issue_of_validate_eq_error hvalid]

/-- Whatever else happens, a call that does not mint leaves alone what is held. -/
theorem held_succ_of_not_mintsAt (hcalled : r.actions[n]? = some (.issue now))
    (hmints : ∀ credential, ¬ r.MintsAt n now credential) :
    (r.state (n + 1)).held = (r.state n).held := by
  rw [state_succ hcalled, step]
  cases hreusable : r.cache.reusable? now (r.state n) with
  | some credential => rw [issue_of_reusable hreusable]
  | none =>
    cases hvalid : r.cache.issuer.identity.validate with
    | ok => exact absurd (mintsAt_of_not_reusable hvalid hcalled hreusable) (hmints _)
    | error error => rw [issue_of_invalid hvalid hreusable]

theorem MintsAt.stands_succ (h : r.MintsAt n now credential) :
    r.Stands (n + 1) n now credential := by
  refine ⟨Nat.lt_succ_self n, h, ?_, ?_⟩
  · intro j hlt hle
    omega
  · intro j hlt hle
    omega

theorem not_stands_succ_of_invalidate (h : r.actions[n]? = some .invalidate) :
    ¬ r.Stands (n + 1) k minted credential := by
  intro hstands
  by_cases hk : k = n
  · subst hk
    have hcalled := hstands.mints.called
    rw [h] at hcalled
    exact absurd hcalled (by simp)
  · have hlt := hstands.lt
    exact hstands.kept n (by omega) (by omega) h

/-- A step that neither mints nor invalidates changes nothing about which mint stands. -/
theorem stands_succ_iff_of_quiet (hmints : ∀ now credential, ¬ r.MintsAt n now credential)
    (hkept : r.actions[n]? ≠ some .invalidate) :
    r.Stands (n + 1) k minted credential ↔ r.Stands n k minted credential := by
  constructor
  · intro h
    have hne : k ≠ n := by
      intro hk
      exact hmints minted credential (hk ▸ h.mints)
    have hlt := h.lt
    refine ⟨by omega, h.mints, ?_, ?_⟩
    · intro j hj hjn
      exact h.latest j hj (by omega)
    · intro j hj hjn
      exact h.kept j hj (by omega)
  · intro h
    have hlt := h.lt
    refine ⟨by omega, h.mints, ?_, ?_⟩
    · intro j hj hjn
      by_cases hlast : j = n
      · rw [hlast]
        exact hmints
      · exact h.latest j hj (by omega)
    · intro j hj hjn
      by_cases hlast : j = n
      · rw [hlast]
        exact hkept
      · exact h.kept j hj (by omega)

/-- What is held before the action of number `n` is exactly what the latest mint before it left, if
    nothing was invalidated since. -/
theorem held_eq_some_iff :
    (r.state n).held = some credential ↔ ∃ k minted, r.Stands n k minted credential := by
  induction n with
  | zero =>
    rw [state_zero]
    constructor
    · intro h
      exact absurd h (by simp)
    · rintro ⟨k, minted, h⟩
      exact absurd h.lt (Nat.not_lt_zero k)
  | succ n ih =>
    -- the steps that leave the slot alone and let the same mint stand
    have quiet (hmints : ∀ now credential, ¬ r.MintsAt n now credential)
        (hkept : r.actions[n]? ≠ some .invalidate)
        (hheld : (r.state (n + 1)).held = (r.state n).held) :
        (r.state (n + 1)).held = some credential ↔
          ∃ k minted, r.Stands (n + 1) k minted credential := by
      simp only [hheld, ih, stands_succ_iff_of_quiet hmints hkept]
    cases haction : r.actions[n]? with
    | none =>
      refine quiet ?_ (by simp [haction]) (by rw [state_succ_of_none haction])
      intro now credential h
      exact absurd (haction.symm.trans h.called) (by simp)
    | some action =>
      cases action with
      | direct now =>
        refine quiet ?_ (by simp [haction]) (by rw [state_succ haction, step_direct])
        intro now credential h
        exact absurd (haction.symm.trans h.called) (by simp)
      | invalidate =>
        rw [state_succ haction, step, invalidate]
        constructor
        · intro h
          exact absurd h (by simp)
        · rintro ⟨k, minted, h⟩
          exact absurd h (not_stands_succ_of_invalidate haction)
      | issue now =>
        by_cases hmints : ∃ new, r.MintsAt n now new
        · obtain ⟨new, hnew⟩ := hmints
          rw [hnew.state_succ]
          constructor
          · intro h
            simp only [Option.some.injEq] at h
            exact ⟨n, now, h ▸ hnew.stands_succ⟩
          · rintro ⟨k, minted, h⟩
            -- a mint right before leaves no room for an earlier one to stand
            rcases Nat.lt_succ_iff_lt_or_eq.1 h.lt with hlt | rfl
            · exact absurd hnew (h.latest n hlt (Nat.lt_succ_self n) now new)
            · have hstate := hnew.state_succ.symm.trans h.mints.state_succ
              exact congrArg State.held hstate
        · have hnone : ∀ later credential, ¬ r.MintsAt n later credential := by
            intro later credential h
            have hlater := haction.symm.trans h.called
            simp only [Option.some.injEq, Action.issue.injEq] at hlater
            exact hmints ⟨credential, hlater ▸ h⟩
          exact quiet hnone (by simp [haction]) (held_succ_of_not_mintsAt haction (hnone now))

end Run

end AccessDecision.Cache
