import AccessDecision.Proofs.Credential.Run

set_option autoImplicit false

/-! # No two credentials share a token

A token can be read back, so it gives away everything that it was made of but the key: the
algorithm, and the claims with every one of their fields (`Credential.eq_of_token_sign_eq`). The
claims in turn give away the second of the issue and the nonce. -/

namespace AccessDecision

open Text

/-! ## What can be read back -/

theorem Bytes.bigEndian_injective {width n m : Nat} (hn : n < Nat.pow 256 width)
    (hm : m < Nat.pow 256 width) (h : bigEndian width n = bigEndian width m) : n = m := by
  have hread := congrArg toNat h
  rw [toNat_bigEndian, toNat_bigEndian, Nat.mod_eq_of_lt hn, Nat.mod_eq_of_lt hm] at hread
  exact hread

theorem Algorithm.name_injective {a a' : Algorithm} (h : a.name = a'.name) : a = a' := by
  revert h
  cases a <;> cases a' <;> decide

/-- The claims of two credentials that were issued are the same only if all that went into them is:
    the client, the second, the name of the issuer and the nonce. -/
theorem Claims.issue_injective {client client' : String} {now now' : Instant}
    {name name' : Option String} {nonce nonce' : Nonce}
    (h : issue client now name nonce = issue client' now' name' nonce') :
    client = client' ∧ now.seconds = now'.seconds ∧ name = name' ∧ nonce = nonce' := by
  refine ⟨congrArg clientId h, ?_, congrArg issuer h, ?_⟩
  · have hissued := congrArg (fun c => c.issuedAt.toInt) h
    simp only [toInt_issuedAt_issue] at hissued
    exact hissued
  · have hid := Base64url.encode_injective (congrArg id h)
    have hbound (n : Nonce) : n.toNat < Nat.pow 256 16 := n.isLt
    exact BitVec.eq_of_toNat_eq (Bytes.bigEndian_injective (hbound _) (hbound _) hid)

namespace Credential

variable {claims claims' : Claims} {a a' : Algorithm} {key key' : Bytes}

theorem segment_injective {text text' : String}
    (h : (segment text).toList = (segment text').toList) :
    Utf8.encode text = Utf8.encode text' :=
  Base64url.encode_injective (String.toList_inj.1 h)

/-- A token gives away its algorithm and its claims, whatever the keys are. -/
theorem eq_of_token_sign_eq (h : (sign claims a key).token = (sign claims' a' key').token) :
    a = a' ∧ claims = claims' := by
  have hsegments := of?_token_sign claims a key
  rw [h, of?_token_sign claims' a' key'] at hsegments
  simp only [Option.some.injEq, Segments.mk.injEq] at hsegments
  obtain ⟨hheader, hpayload, -⟩ := hsegments
  constructor
  · have hread := (Header.ofAlgorithm a').read_text
    rw [segment_injective hheader, Header.read_text] at hread
    exact Algorithm.name_injective (congrArg Header.algorithm (Except.ok.inj hread))
  · have hread := claims'.read_text
    rw [segment_injective hpayload, Claims.read_text] at hread
    exact Except.ok.inj hread

end Credential

namespace Issuer

theorem issue_eq_ok_iff {i : Issuer} {now : Instant} {e : Entropy} {credential : Credential} :
    (i.issue now e).1 = .ok credential ↔
      i.identity.validate = .ok () ∧ credential = i.sign now e.current := by
  cases hvalid : i.identity.validate with
  | error error => simp [issue_of_validate_eq_error hvalid]
  | ok => simp [issue_of_validate_eq_ok hvalid, eq_comm]

/-- Credentials of any two issuers have the same token only if the client, the second, the name of
    the issuer and the nonce are the same. -/
theorem sign_injective {i i' : Issuer} {now now' : Instant} {nonce nonce' : Nonce}
    (h : (i.sign now nonce).token = (i'.sign now' nonce').token) :
    i.identity.clientId = i'.identity.clientId ∧ now.seconds = now'.seconds ∧
      i.name = i'.name ∧ nonce = nonce' :=
  Claims.issue_injective (Credential.eq_of_token_sign_eq h).2

end Issuer

/-! ## What a run hands out -/

namespace Cache.Run

/-- The action of number `n` hands out a credential: it is a call of the cache, which may reuse one,
    or the issuer is asked directly. -/
inductive HandsOut (r : Run) (n : Nat) (credential : Credential) : Prop where
  | cached (now : Instant) (called : r.actions[n]? = some (.issue now))
    (issue_eq : (r.cache.issue now (r.state n)).1 = .ok credential)
  | direct (now : Instant) (called : r.actions[n]? = some (.direct now))
    (issue_eq : (r.cache.issuer.issue now (r.state n).entropy).1 = .ok credential)

/-- Whatever is handed out was signed by the issuer, now or before. -/
theorem HandsOut.exists_sign {r : Run} {n : Nat} {credential : Credential}
    (h : r.HandsOut n credential) :
    ∃ minted nonce, credential = r.cache.issuer.sign minted nonce := by
  cases h with
  | direct now called issue_eq => exact ⟨now, _, (Issuer.issue_eq_ok_iff.1 issue_eq).2⟩
  | cached now called issue_eq =>
    cases hreusable : r.cache.reusable? now (r.state n) with
    | some held =>
      rw [issue_of_reusable hreusable] at issue_eq
      obtain rfl := Except.ok.inj issue_eq
      obtain ⟨k, minted, hstands⟩ := held_eq_some_iff.1 (reusable?_eq_some_iff.1 hreusable).1
      exact ⟨minted, _, hstands.mints.signed⟩
    | none =>
      cases hvalid : r.cache.issuer.identity.validate with
      | ok =>
        rw [issue_of_valid hvalid hreusable] at issue_eq
        exact ⟨now, _, (Except.ok.inj issue_eq).symm⟩
      | error error =>
        rw [issue_of_invalid hvalid hreusable] at issue_eq
        exact absurd issue_eq (by simp)

end Cache.Run

namespace Credential

/-- **No two credentials share a token.** Whatever the keys are, equal tokens were signed with the
    same algorithm and for the same claims. So two credentials that are issued have different tokens
    unless the client, the second, the name of the issuer (none being another than the empty one)
    and the nonce are the same. And of the credentials of one issuer, new or reused, in any two
    runs, two are the same exactly if their claims are, and exactly if their tokens are. -/
theorem token_distinguishes :
    (∀ claims claims' a a' key key',
      (sign claims a key).token = (sign claims' a' key').token → a = a' ∧ claims = claims') ∧
    (∀ (i i' : Issuer) now now' e e' credential credential',
      (i.issue now e).1 = .ok credential → (i'.issue now' e').1 = .ok credential' →
      i.identity.clientId ≠ i'.identity.clientId ∨ now.seconds ≠ now'.seconds ∨
        i.name ≠ i'.name ∨ e.current ≠ e'.current →
      credential.token ≠ credential'.token) ∧
    ∀ (r r' : Cache.Run), r.cache.issuer = r'.cache.issuer →
      ∀ n n' credential credential', r.HandsOut n credential → r'.HandsOut n' credential' →
        (credential = credential' ↔ credential.claims = credential'.claims) ∧
        (credential.claims = credential'.claims ↔ credential.token = credential'.token) := by
  refine ⟨fun _ _ _ _ _ _ => eq_of_token_sign_eq, ?_, ?_⟩
  · intro i i' now now' e e' credential credential' hissue hissue' hdiffer htoken
    rw [(Issuer.issue_eq_ok_iff.1 hissue).2, (Issuer.issue_eq_ok_iff.1 hissue').2] at htoken
    obtain ⟨hclient, hsecond, hname, hnonce⟩ := Issuer.sign_injective htoken
    rcases hdiffer with h | h | h | h
    · exact h hclient
    · exact h hsecond
    · exact h hname
    · exact h hnonce
  · intro r r' hissuer n n' credential credential' h h'
    obtain ⟨minted, nonce, rfl⟩ := h.exists_sign
    obtain ⟨minted', nonce', rfl⟩ := h'.exists_sign
    rw [← hissuer]
    -- the issuer's key and algorithm leave nothing but the claims to choose
    have hsame (hclaims : (r.cache.issuer.sign minted nonce).claims =
        (r.cache.issuer.sign minted' nonce').claims) :
        r.cache.issuer.sign minted nonce = r.cache.issuer.sign minted' nonce' :=
      congrArg (fun claims => sign claims r.cache.issuer.algorithm r.cache.issuer.identity.key)
        hclaims
    refine ⟨⟨congrArg claims, hsame⟩, fun hclaims => congrArg token (hsame hclaims), ?_⟩
    intro htoken
    exact (eq_of_token_sign_eq htoken).2

/-- Two credentials of one second, one with an empty issuer name and one without any; and what two
    caches of one issuer hand out in that second with different nonces. -/
theorem token_distinguishes_within_a_second :
    let named (name : Option String) : Issuer := ⟨⟨"svc", "s"⟩, .hs256, name⟩
    let run (nonce : Nonce) : Cache.Run :=
      ⟨⟨named none, Cache.defaultMargin⟩, .countingFrom nonce, [.issue .epoch]⟩
    (∃ c c', ((named none).issue .epoch (.countingFrom 7)).1 = .ok c ∧
      ((named (some "")).issue .epoch (.countingFrom 7)).1 = .ok c' ∧ c.token ≠ c'.token) ∧
    (∃ c c', (run 7).HandsOut 0 c ∧ (run 8).HandsOut 0 c' ∧ c.token ≠ c'.token ∧
      c.claims ≠ c'.claims ∧ c ≠ c') ∧
    ∀ key, (sign (.issue "svc" .epoch none 7) .hs256 key).token ≠
      (sign (.issue "svc" .epoch none 7) .hs384 key).token := by
  intro named run
  obtain ⟨hsigned, hissued, hrun⟩ := token_distinguishes
  have hclient : isBlank "svc" = false := by decide +kernel
  have hvalid (name : Option String) : (named name).identity.validate = .ok () :=
    Identity.validate_eq_ok_iff.2 ⟨hclient, by simp [named]⟩
  have hissue (name : Option String) (nonce : Nonce) :
      ((named name).issue .epoch (.countingFrom nonce)).1 =
        .ok ((named name).sign .epoch (Entropy.countingFrom nonce).current) :=
    Issuer.issue_eq_ok_iff.2 ⟨hvalid name, rfl⟩
  have hhands (nonce : Nonce) :
      (run nonce).HandsOut 0 ((named none).sign .epoch (Entropy.countingFrom nonce).current) :=
    .cached .epoch rfl
      (congrArg Prod.fst (Cache.issue_of_valid (c := (run nonce).cache) (hvalid none) rfl))
  have htoken : ((named none).sign .epoch (Entropy.countingFrom 7).current).token ≠
      ((named none).sign .epoch (Entropy.countingFrom 8).current).token :=
    hissued _ _ .epoch .epoch _ _ _ _ (hissue none 7) (hissue none 8)
      (Or.inr (Or.inr (Or.inr (by decide))))
  obtain ⟨hsame, hclaims⟩ := hrun (run 7) (run 8) rfl 0 0 _ _ (hhands 7) (hhands 8)
  refine ⟨⟨_, _, hissue none 7, hissue (some "") 7, ?_⟩, ⟨_, _, hhands 7, hhands 8, htoken,
    fun h => htoken (hclaims.1 h), fun h => htoken (hclaims.1 (hsame.1 h))⟩, ?_⟩
  · exact hissued _ _ .epoch .epoch _ _ _ _ (hissue none 7) (hissue (some "") 7)
      (Or.inr (Or.inr (Or.inl (by decide))))
  · intro key h
    exact absurd (hsigned _ _ _ _ _ _ h).1 (by decide)

end Credential

end AccessDecision
