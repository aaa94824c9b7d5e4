import AccessDecision.Proofs.Credential.Issuance

set_option autoImplicit false

/-! # One signature for a header and claims

The first two segments of an accepted token leave no choice for the third: it is the canonical text
of their whole signature. So whatever other text is put in its place, be it shorter, longer, padded
or with unused bits set, the token is refused, and always for the same reason
(`GenuineSegments.verify_of_ne`). No assumption about the digest is needed, since nobody asks
whether a signature could have been found by other means. -/

namespace AccessDecision.Verifier

open Outcome Text

variable {v : Verifier} {header payload signature other : String} {claims : Claims}

/-- Why a text that is not the signature of the segments before it is refused in its place. -/
def refusal (other : String) : VerificationError :=
  if '.' ∈ other.toList then .malformed .notThreeSegments
  else match Base64url.decode (Utf8.encode other) with
    | .error fault => .malformed (.signature fault)
    | .ok _ => .invalidSignature

theorem refusal_cases (other : String) :
    refusal other = .invalidSignature ∨ ∃ how, refusal other = .malformed how := by
  unfold refusal
  split
  · exact Or.inr ⟨_, rfl⟩
  · split
    · exact Or.inr ⟨_, rfl⟩
    · exact Or.inl rfl

/-- A dot behind the second one makes a fourth segment. -/
theorem of?_join_eq_none (h : '.' ∈ other.toList) :
    Segments.of? (header ++ "." ++ payload ++ "." ++ other) = none := by
  rw [Option.eq_none_iff_forall_ne_some]
  intro segments hsegments
  obtain ⟨htoken, hheader, hpayload, hsignature⟩ := Segments.of?_eq_some_iff.1 hsegments
  have hcount := congrArg (List.count '.') htoken
  rw [toList_join] at hcount
  simp only [List.count_append, List.count_cons_self, List.count_eq_zero.2 hheader,
    List.count_eq_zero.2 hpayload, List.count_eq_zero.2 hsignature] at hcount
  have hpos := List.count_pos_iff.2 h
  omega

/-- Behind the first two segments of a genuine token, any other text than its signature is refused,
    whatever the time. -/
theorem GenuineSegments.verify_of_ne (h : v.GenuineSegments header payload signature claims)
    (hne : other ≠ signature) (now : Instant) :
    v.verify (header ++ "." ++ payload ++ "." ++ other) now = .error (refusal other) := by
  obtain ⟨hheaderDot, hpayloadDot, -⟩ := h.dot_not_mem
  obtain ⟨bytes, head, hheader, hread, hname⟩ := h.header_eq
  have hcontent : content Header.read header.toList = .ok head :=
    content_eq_ok_iff.2 ⟨bytes, by rw [hheader, Base64url.toList_encode], hread⟩
  unfold verify refusal
  by_cases hdot : '.' ∈ other.toList
  · rw [of?_join_eq_none hdot, if_pos hdot]
  · rw [of?_join hheaderDot hpayloadDot hdot, if_neg hdot]
    dsimp only
    rw [hcontent, ok_bind, if_neg (by simp [hname]), ← Utf8.encode]
    cases hdecode : Base64url.decode (Utf8.encode other) with
    | error fault => rfl
    | ok decoded =>
      -- the only text of the whole signature is the one that was there before
      have hwrong : v.algorithm.sign v.identity.key
          (Segments.signed ⟨header.toList, payload.toList, other.toList⟩) ≠ decoded := by
        rintro rfl
        have hother := Base64url.decode_encodeChars_eq_ok_iff.1 hdecode
        rw [signed_eq] at hother
        refine hne (String.toList_inj.1 ?_)
        rw [hother, h.signature_eq, Base64url.toList_encode, Algorithm.sign]
      dsimp only
      rw [Algorithm.verify, decide_eq_false hwrong]
      rfl

/-- **Signatures are not malleable.** Two accepted tokens with the same header and claims are the
    same token, whenever they are accepted. And in the place of the signature of an accepted token
    every other text is refused at every instant, either as malformed or as an invalid signature. -/
theorem verify_signature_unique (v : Verifier) (header payload : String) :
    (∀ signature other now later claims claims',
      v.verify (header ++ "." ++ payload ++ "." ++ signature) now = .ok claims →
      v.verify (header ++ "." ++ payload ++ "." ++ other) later = .ok claims' →
      header ++ "." ++ payload ++ "." ++ signature = header ++ "." ++ payload ++ "." ++ other) ∧
    ∀ signature now claims,
      v.verify (header ++ "." ++ payload ++ "." ++ signature) now = .ok claims →
      ∀ other, other ≠ signature → ∃ error,
        (error = .invalidSignature ∨ ∃ how, error = .malformed how) ∧
        ∀ later, v.verify (header ++ "." ++ payload ++ "." ++ other) later = .error error := by
  have hrefused : ∀ signature now claims,
      v.verify (header ++ "." ++ payload ++ "." ++ signature) now = .ok claims →
      ∀ other, other ≠ signature → ∀ later,
        v.verify (header ++ "." ++ payload ++ "." ++ other) later = .error (refusal other) := by
    intro signature now claims haccepted other hne later
    exact (genuine_of_verify_eq_ok haccepted).1.segments.verify_of_ne hne later
  constructor
  · intro signature other now later claims claims' haccepted haccepted'
    by_cases hne : other = signature
    · rw [hne]
    · rw [hrefused signature now claims haccepted other hne later] at haccepted'
      exact absurd haccepted' (by simp)
  · intro signature now claims haccepted other hne
    exact ⟨refusal other, refusal_cases other, hrefused signature now claims haccepted other hne⟩

/-- A signature with padding, and one with a fourth segment behind it, in the place of the signature
    that an issuer made. -/
theorem verify_signature_unique_padded_and_dotted :
    let i : Issuer := ⟨⟨"svc", "k"⟩, .hs256, none⟩
    let claims : Claims := .issue "svc" .epoch none 0
    let header := Credential.segment (Header.ofAlgorithm .hs256).text
    let payload := Credential.segment claims.text
    let signature := Base64url.encode (Algorithm.hs256.sign (Utf8.encode "k")
      (Utf8.encode (header ++ "." ++ payload)))
    i.verifier.verify (header ++ "." ++ payload ++ "." ++ signature) .epoch = .ok claims ∧
      (signature ++ "=" ≠ signature ∧ ∃ error,
        (error = .invalidSignature ∨ ∃ how, error = .malformed how) ∧ ∀ later, i.verifier.verify
          (header ++ "." ++ payload ++ "." ++ (signature ++ "=")) later = .error error) ∧
      (signature ++ ".e30" ≠ signature ∧ ∃ error,
        (error = .invalidSignature ∨ ∃ how, error = .malformed how) ∧ ∀ later, i.verifier.verify
          (header ++ "." ++ payload ++ "." ++ (signature ++ ".e30")) later = .error error) := by
  intro i claims header payload signature
  have haccepted : i.verifier.verify (header ++ "." ++ payload ++ "." ++ signature) .epoch =
      .ok claims := by
    have hlifetime : Instant.epoch.seconds < Instant.epoch.seconds + Claims.lifetime := by decide
    exact (Issuer.sign_accepted (i := i) hlifetime).1
  have hlonger (tail : String) (htail : tail.toList ≠ []) : signature ++ tail ≠ signature := by
    intro h
    have hlength := congrArg (fun s => s.toList) h
    exact htail (by simpa using hlength)
  obtain ⟨-, hrefused⟩ := verify_signature_unique i.verifier header payload
  have hpadded := hlonger "=" (by decide)
  have hdotted := hlonger ".e30" (by decide)
  exact ⟨haccepted, ⟨hpadded, hrefused signature .epoch claims haccepted _ hpadded⟩,
    hdotted, hrefused signature .epoch claims haccepted _ hdotted⟩

end AccessDecision.Verifier
