import AccessDecision.Proofs.Credential.Run

set_option autoImplicit false

/-! # What any source hands out

Whether credentials come from an issuer or through a cache, a caller gets the same: the issuer's
error if the identity cannot sign, and otherwise a credential that the issuer signed less than a day
before. What carries this from call to call is where the credential that is held comes from
(`Source.Sound`). -/

namespace AccessDecision.Source

variable {source : Source} {state : Cache.State}

/-! ## An issuer by itself -/

theorem issue_issuer_of_valid {i : Issuer} (h : i.identity.validate = .ok ()) (now : Instant)
    (state : Cache.State) :
    (Source.issuer i).issue now state = (.ok (i.sign now state.entropy.current),
      [(i.sign now state.entropy.current).issuedEvent],
      { state with entropy := state.entropy.advance }) := by
  rw [issue, Issuer.issue_of_validate_eq_ok h]

theorem issue_issuer_of_invalid {i : Issuer} {error : CredentialError}
    (h : i.identity.validate = .error error) (now : Instant) (state : Cache.State) :
    (Source.issuer i).issue now state = (.error error, [], state) := by
  rw [issue, Issuer.issue_of_validate_eq_error h]

/-! ## Any source -/

/-- A credential is held only if the issuer can sign, and is one that it signed. -/
def Sound (source : Source) (state : Cache.State) : Prop :=
  ∀ credential, state.held = some credential → source.base.identity.validate = .ok () ∧
    ∃ minted nonce, credential = source.base.sign minted nonce

theorem sound_of_nothing_held (source : Source) (entropy : Entropy) :
    source.Sound ⟨none, entropy⟩ := by
  intro credential h
  exact absurd h (by simp)

theorem Sound.issue_of_invalid (h : source.Sound state) {error : CredentialError}
    (hinvalid : source.base.identity.validate = .error error) (now : Instant) :
    source.issue now state = (.error error, [], state) := by
  cases source with
  | issuer i => exact issue_issuer_of_invalid hinvalid now state
  | cache c =>
    refine Cache.issue_of_invalid hinvalid ?_
    -- what is held would have been signed
    rw [Option.eq_none_iff_forall_ne_some]
    intro credential hreusable
    have hvalid := (h credential (Cache.reusable?_eq_some_iff.1 hreusable).1).1
    exact absurd (hvalid.symm.trans hinvalid) (by simp)

theorem Sound.issue_of_valid (h : source.Sound state)
    (hvalid : source.base.identity.validate = .ok ()) (now : Instant) :
    ∃ minted nonce log after,
      source.issue now state = (.ok (source.base.sign minted nonce), log, after) ∧
        now.seconds < minted.seconds + Claims.lifetime ∧ source.Sound after := by
  have hlifetime : Claims.lifetime = 86400 := rfl
  cases source with
  | issuer i => exact ⟨now, _, _, _, issue_issuer_of_valid hvalid now state, by omega, h⟩
  | cache c =>
    cases hreusable : c.reusable? now state with
    | some credential =>
      obtain ⟨hheld, hfresh⟩ := Cache.reusable?_eq_some_iff.1 hreusable
      obtain ⟨-, minted, nonce, rfl⟩ := h credential hheld
      have hbefore := Cache.fresh_sign_iff.1 hfresh
      exact ⟨minted, nonce, _, _, Cache.issue_of_reusable hreusable, by omega, h⟩
    | none =>
      refine ⟨now, _, _, _, Cache.issue_of_valid hvalid hreusable, by omega, ?_⟩
      intro credential hheld
      obtain rfl := Option.some.inj hheld
      exact ⟨hvalid, now, _, rfl⟩

end AccessDecision.Source
