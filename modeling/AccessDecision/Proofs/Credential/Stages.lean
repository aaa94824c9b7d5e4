import AccessDecision.Proofs.Credential.Issuance

set_option autoImplicit false

/-! # The stages of verification

A verifier goes through a token in seven stages. `Verifier.fault?` says what each of them finds
wrong, looking at the token alone and not at what the others found, and a token is refused for what
the first of them finds (`Verifier.verify_eq_error_iff`). The first five decide whether the token is
authentic, and only then do the payload and the clock have a say: before that nobody can learn from
the answer what the payload is, or whether it is anything at all. -/

namespace AccessDecision

open Outcome Text

/-- What a verifier looks at. -/
inductive Stage where
  | shape
  | header
  | algorithm
  | signature
  | mac
  | payload
  | expiry
  deriving DecidableEq, Repr

namespace Stage

/-- The stages that make sure of the sender, in their order. -/
def authentication : List Stage := [.shape, .header, .algorithm, .signature, .mac]

/-- The stages that interpret what was sent, in their order. -/
def interpretation : List Stage := [.payload, .expiry]

/-- All stages in their order. -/
def all : List Stage := authentication ++ interpretation

theorem disjoint : ∀ stage ∈ authentication, stage ∉ interpretation := by decide

/-- The kind of error that each stage reports. -/
inductive Reports : Stage → VerificationError → Prop where
  | shape : Reports .shape (.malformed .notThreeSegments)
  | header (how : Malformation) : Reports .header (.malformed how)
  | algorithm (expected actual : String) :
    Reports .algorithm (.algorithmMismatch expected actual)
  | signature (fault : Base64url.Fault) : Reports .signature (.malformed (.signature fault))
  | mac : Reports .mac .invalidSignature
  | payload (how : Malformation) : Reports .payload (.malformed how)
  | expiry (expiresAt : Int64) : Reports .expiry (.expired expiresAt)

end Stage

namespace Verifier

/-! ## Faults -/

/-- What a stage finds wrong with three segments. A stage that has nothing to look at, since what it
    needs cannot be read, finds nothing. -/
def segmentsFault? (v : Verifier) (now : Instant) (s : Segments) :
    Stage → Option VerificationError
  | .shape => none
  | .header =>
    match content Header.read s.header with
    | .ok _ => none
    | .error error => some error
  | .algorithm =>
    match content Header.read s.header with
    | .ok head =>
      if head.algorithm = v.algorithm.name then none
      else some (.algorithmMismatch v.algorithm.name head.algorithm)
    | .error _ => none
  | .signature =>
    match Base64url.decode (Utf8.encodeChars s.signature) with
    | .ok _ => none
    | .error fault => some (.malformed (.signature fault))
  | .mac =>
    match Base64url.decode (Utf8.encodeChars s.signature) with
    | .ok signature =>
      if v.algorithm.sign v.identity.key s.signed = signature then none else some .invalidSignature
    | .error _ => none
  | .payload =>
    match content Claims.read s.payload with
    | .ok _ => none
    | .error error => some error
  | .expiry =>
    match content Claims.read s.payload with
    | .ok claims => if claims.expiredAt now then some (.expired claims.expiresAt) else none
    | .error _ => none

/-- What a stage finds wrong with a token. -/
def fault? (v : Verifier) (now : Instant) (token : String) (stage : Stage) :
    Option VerificationError :=
  match Segments.of? token with
  | some s => v.segmentsFault? now s stage
  | none => if stage = .shape then some (.malformed .notThreeSegments) else none

/-- The first of some stages that finds a fault, and the fault. -/
def firstFaultOf? (v : Verifier) (now : Instant) (token : String) (stages : List Stage) :
    Option (Stage × VerificationError) :=
  stages.findSome? fun stage => (v.fault? now token stage).map fun error => (stage, error)

/-- The first stage that finds a fault, and the fault. -/
def firstFault? (v : Verifier) (now : Instant) (token : String) :
    Option (Stage × VerificationError) :=
  v.firstFaultOf? now token Stage.all

/-- The third segment of a token is the whole signature of the first two under the verifier's
    secret. -/
def Authentic (v : Verifier) (token : String) : Prop :=
  ∃ s, Segments.of? token = some s ∧ Base64url.decode (Utf8.encodeChars s.signature) =
    .ok (Digest.Hmac.mac v.algorithm.hash v.identity.key s.signed)

variable {v : Verifier} {now : Instant} {token : String} {s : Segments}

/-! ## The errors of a stage -/

/-- What cannot be read is reported as malformed. -/
theorem malformed_of_content {α : Type} {read : Bytes → Except Json.Error α}
    {segment : List Char} {error : VerificationError} (h : content read segment = .error error) :
    ∃ how, error = .malformed how := by
  unfold content at h
  split at h
  · rename_i fault _
    exact ⟨.encoding fault, (Except.error.inj h).symm⟩
  · rename_i bytes _
    cases hread : read bytes with
    | ok value =>
      rw [hread, mapError_ok] at h
      exact absurd h (by simp)
    | error e =>
      rw [hread, mapError_error] at h
      exact ⟨.content e, (Except.error.inj h).symm⟩

/-- Each stage reports errors of its own kind. -/
theorem reports_of_segmentsFault? {stage : Stage} {error : VerificationError}
    (h : v.segmentsFault? now s stage = some error) : stage.Reports error := by
  cases stage with
  | shape => exact absurd h (by simp [segmentsFault?])
  | header =>
    simp only [segmentsFault?] at h
    split at h
    · exact absurd h (by simp)
    · rename_i hcontent
      obtain ⟨how, rfl⟩ := malformed_of_content hcontent
      exact Option.some.inj h ▸ .header how
  | algorithm =>
    simp only [segmentsFault?] at h
    split at h
    · split at h
      · exact absurd h (by simp)
      · exact Option.some.inj h ▸ .algorithm ..
    · exact absurd h (by simp)
  | signature =>
    simp only [segmentsFault?] at h
    split at h
    · exact absurd h (by simp)
    · exact Option.some.inj h ▸ .signature _
  | mac =>
    simp only [segmentsFault?] at h
    split at h
    · split at h
      · exact absurd h (by simp)
      · exact Option.some.inj h ▸ .mac
    · exact absurd h (by simp)
  | payload =>
    simp only [segmentsFault?] at h
    split at h
    · exact absurd h (by simp)
    · rename_i hcontent
      obtain ⟨how, rfl⟩ := malformed_of_content hcontent
      exact Option.some.inj h ▸ .payload how
  | expiry =>
    simp only [segmentsFault?] at h
    split at h
    · split at h
      · exact Option.some.inj h ▸ .expiry _
      · exact absurd h (by simp)
    · exact absurd h (by simp)

theorem reports_of_fault? {stage : Stage} {error : VerificationError}
    (h : v.fault? now token stage = some error) : stage.Reports error := by
  unfold fault? at h
  split at h
  · exact reports_of_segmentsFault? h
  · split at h
    · rename_i hstage
      subst hstage
      exact Option.some.inj h ▸ .shape
    · exact absurd h (by simp)

/-! ## The first fault -/

theorem fault?_of_segments (h : Segments.of? token = some s) (stage : Stage) :
    v.fault? now token stage = v.segmentsFault? now s stage := by
  rw [fault?, h]

theorem mem_of_firstFaultOf?_eq_some {stages : List Stage} {stage : Stage}
    {error : VerificationError} (h : v.firstFaultOf? now token stages = some (stage, error)) :
    stage ∈ stages ∧ v.fault? now token stage = some error := by
  obtain ⟨found, hfound, hmap⟩ := List.exists_of_findSome?_eq_some h
  obtain ⟨_, hfault, hpair⟩ := Option.map_eq_some_iff.1 hmap
  obtain ⟨rfl, rfl⟩ := Prod.mk.inj hpair
  exact ⟨hfound, hfault⟩

/-- The stages of interpretation come after those of authentication. -/
theorem firstFault?_eq :
    v.firstFault? now token = (v.firstFaultOf? now token Stage.authentication).or
      (v.firstFaultOf? now token Stage.interpretation) :=
  List.findSome?_append

/-- A verifier refuses a token for its first fault, and gives the claims of one without a fault. -/
theorem verify_cases (v : Verifier) (now : Instant) (token : String) :
    (∃ stage error, v.firstFault? now token = some (stage, error) ∧
      v.verify token now = .error error) ∨
    ∃ s claims, Segments.of? token = some s ∧ content Claims.read s.payload = .ok claims ∧
      v.firstFault? now token = none ∧ v.verify token now = .ok claims := by
  unfold verify firstFault? firstFaultOf? Stage.all Stage.authentication Stage.interpretation
  cases hsegments : Segments.of? token with
  | none => simp [fault?, hsegments]
  | some s =>
    simp only [fault?_of_segments hsegments, List.cons_append, List.nil_append,
      List.findSome?_cons]
    cases hhead : content Header.read s.header with
    | error error => simp [segmentsFault?, hhead]
    | ok head =>
      by_cases hname : head.algorithm = v.algorithm.name
      · cases hsignature : Base64url.decode (Utf8.encodeChars s.signature) with
        | error fault => simp [segmentsFault?, hhead, hname, hsignature]
        | ok signature =>
          by_cases hmac : v.algorithm.sign v.identity.key s.signed = signature
          · cases hpayload : content Claims.read s.payload with
            | error error =>
              simp [segmentsFault?, hhead, hname, hsignature, hmac, hpayload, Algorithm.verify]
            | ok claims =>
              cases hexpired : claims.expiredAt now with
              | true =>
                simp [segmentsFault?, hhead, hname, hsignature, hmac, hpayload, hexpired,
                  Algorithm.verify]
              | false =>
                simp [segmentsFault?, hhead, hname, hsignature, hmac, hpayload, hexpired,
                  Algorithm.verify]
          · simp [segmentsFault?, hhead, hname, hsignature, hmac, Algorithm.verify]
      · simp [segmentsFault?, hhead, hname]

/-- A token is refused for exactly its first fault. -/
theorem verify_eq_error_iff {error : VerificationError} :
    v.verify token now = .error error ↔ ∃ stage, v.firstFault? now token = some (stage, error) := by
  rcases verify_cases v now token with ⟨stage, found, hfirst, hverify⟩ |
    ⟨s, claims, -, -, hfirst, hverify⟩
  · simp [hfirst, hverify]
  · simp [hfirst, hverify]

/-- A token without a fault is accepted as what its payload says. -/
theorem verify_eq_ok_iff {claims : Claims} :
    v.verify token now = .ok claims ↔ v.firstFault? now token = none ∧
      ∃ s, Segments.of? token = some s ∧ content Claims.read s.payload = .ok claims := by
  rcases verify_cases v now token with ⟨stage, found, hfirst, hverify⟩ |
    ⟨s, read, hs, hread, hfirst, hverify⟩
  · simp [hfirst, hverify]
  · simp [hfirst, hverify, hs, hread]

/-! ## Authentication -/

/-- The stages of authentication find nothing only in an authentic token. -/
theorem authentic_of_firstFaultOf?_eq_none
    (h : v.firstFaultOf? now token Stage.authentication = none) : v.Authentic token := by
  have hnone : ∀ stage ∈ Stage.authentication, v.fault? now token stage = none := by
    simpa [firstFaultOf?] using h
  cases hsegments : Segments.of? token with
  | none =>
    have hshape := hnone .shape (by decide)
    rw [fault?, hsegments] at hshape
    exact absurd hshape (by simp)
  | some s =>
    have hsignature := hnone .signature (by decide)
    have hmac := hnone .mac (by decide)
    rw [fault?_of_segments hsegments] at hsignature hmac
    simp only [segmentsFault?] at hsignature hmac
    refine ⟨s, hsegments, ?_⟩
    cases hdecode : Base64url.decode (Utf8.encodeChars s.signature) with
    | error fault =>
      rw [hdecode] at hsignature
      exact absurd hsignature (by simp)
    | ok signature =>
      have hsign : v.algorithm.sign v.identity.key s.signed = signature := by
        simpa [hdecode] using hmac
      rw [← hsign, Algorithm.sign]

/-- So in any other token the first fault is one of theirs. -/
theorem exists_firstFault?_of_not_authentic (h : ¬ v.Authentic token) (now : Instant) :
    ∃ stage error, v.firstFaultOf? now token Stage.authentication = some (stage, error) ∧
      v.firstFault? now token = some (stage, error) := by
  cases hfirst : v.firstFaultOf? now token Stage.authentication with
  | none => exact absurd (authentic_of_firstFaultOf?_eq_none hfirst) h
  | some found =>
    refine ⟨found.1, found.2, rfl, ?_⟩
    rw [firstFault?_eq, hfirst]
    rfl

/-- A fault of the payload or of the time is found only in an authentic token. -/
theorem authentic_of_interpretation {stage : Stage} {error : VerificationError}
    (h : v.firstFault? now token = some (stage, error)) (hstage : stage ∈ Stage.interpretation) :
    v.Authentic token := by
  by_contra hnot
  obtain ⟨early, found, hearly, hfirst⟩ := exists_firstFault?_of_not_authentic hnot now
  rw [h] at hfirst
  obtain ⟨rfl, rfl⟩ := Prod.mk.inj (Option.some.inj hfirst)
  -- no stage does both
  exact Stage.disjoint stage (mem_of_firstFaultOf?_eq_some hearly).1 hstage

/-- What authentication finds does not depend on the time. -/
theorem fault?_of_mem_authentication (v : Verifier) (now later : Instant) (token : String) :
    ∀ stage ∈ Stage.authentication, v.fault? now token stage = v.fault? later token stage := by
  intro stage hstage
  unfold fault?
  cases Segments.of? token with
  | none => rfl
  | some s =>
    simp only [Stage.authentication, List.mem_cons, List.not_mem_nil, or_false] at hstage
    rcases hstage with rfl | rfl | rfl | rfl | rfl <;> rfl

/-- What authentication finds in three segments depends on the payload only through the signature
    being right, and on the time not at all. -/
theorem fault?_congr {other : String} {s' : Segments} {later : Instant}
    (hs : Segments.of? token = some s) (hs' : Segments.of? other = some s')
    (hheader : s.header = s'.header) (hsignature : s.signature = s'.signature)
    (hnot : ¬ v.Authentic token) (hnot' : ¬ v.Authentic other) :
    ∀ stage ∈ Stage.authentication, v.fault? now token stage = v.fault? later other stage := by
  intro stage hstage
  rw [fault?_of_segments hs, fault?_of_segments hs']
  simp only [Stage.authentication, List.mem_cons, List.not_mem_nil, or_false] at hstage
  rcases hstage with rfl | rfl | rfl | rfl | rfl
  · rfl
  · simp only [segmentsFault?, hheader]
  · simp only [segmentsFault?, hheader]
  · simp only [segmentsFault?, hsignature]
  · simp only [segmentsFault?, ← hsignature]
    cases hdecode : Base64url.decode (Utf8.encodeChars s.signature) with
    | error fault => rfl
    | ok signature =>
      have hwrong : v.algorithm.sign v.identity.key s.signed ≠ signature := by
        rintro rfl
        exact hnot ⟨s, hs, hdecode⟩
      have hwrong' : v.algorithm.sign v.identity.key s'.signed ≠ signature := by
        rintro rfl
        exact hnot' ⟨s', hs', hsignature ▸ hdecode⟩
      simp only [if_neg hwrong, if_neg hwrong']

/-- Two tokens that are not authentic and in which authentication finds the same get the same
    answer. -/
theorem verify_congr {other : String} {later : Instant} (hnot : ¬ v.Authentic token)
    (hnot' : ¬ v.Authentic other)
    (h : ∀ stage ∈ Stage.authentication, v.fault? now token stage = v.fault? later other stage) :
    v.verify token now = v.verify other later := by
  obtain ⟨stage, error, hearly, hfirst⟩ := exists_firstFault?_of_not_authentic hnot now
  obtain ⟨stage', error', hearly', hfirst'⟩ := exists_firstFault?_of_not_authentic hnot' later
  have hsame : v.firstFaultOf? now token Stage.authentication =
      v.firstFaultOf? later other Stage.authentication := by
    simp only [Stage.authentication, List.forall_mem_cons] at h
    obtain ⟨hshape, hheader, halgorithm, hsignature, hmac, -⟩ := h
    simp only [firstFaultOf?, Stage.authentication, List.findSome?_cons, List.findSome?_nil,
      hshape, hheader, halgorithm, hsignature, hmac]
  rw [hearly, hearly'] at hsame
  obtain ⟨rfl, rfl⟩ := Prod.mk.inj (Option.some.inj hsame)
  rw [verify_eq_error_iff.2 ⟨stage, hfirst⟩, verify_eq_error_iff.2 ⟨stage, hfirst'⟩]

/-! ## The order of the stages -/

/-- **Unauthenticated payloads are never interpreted.** A token is refused for what the first stage
    to find a fault finds, and accepted only if none does. So a header that names another algorithm
    is reported whatever the payload, the signature, the secret and the time are. Unless the third
    segment is the whole signature of the first two, the answer is the same at every instant and for
    every payload with which it is not that either. And a fault of the payload, or the expiry, is
    reported only if it is. -/
theorem verify_in_stages (v : Verifier) :
    (∀ token now,
      (∀ error, v.verify token now = .error error ↔
        ∃ stage, v.firstFault? now token = some (stage, error)) ∧
      ∀ claims, v.verify token now = .ok claims ↔ v.firstFault? now token = none ∧
        ∃ s, Segments.of? token = some s ∧ content Claims.read s.payload = .ok claims) ∧
    (∀ identity token s head now, Segments.of? token = some s →
      content Header.read s.header = .ok head → head.algorithm ≠ v.algorithm.name →
      verify ⟨identity, v.algorithm⟩ token now =
        .error (.algorithmMismatch v.algorithm.name head.algorithm)) ∧
    (∀ token, ¬ v.Authentic token → ∀ now later, v.verify token now = v.verify token later) ∧
    (∀ token other s s', Segments.of? token = some s → Segments.of? other = some s' →
      s.header = s'.header → s.signature = s'.signature →
      ¬ v.Authentic token → ¬ v.Authentic other →
      ∀ now later, v.verify token now = v.verify other later) ∧
    (∀ token now stage error, v.firstFault? now token = some (stage, error) →
      stage ∈ Stage.interpretation → v.Authentic token) ∧
    ∀ token now expiry, v.verify token now = .error (.expired expiry) → v.Authentic token := by
  refine ⟨?_, ?_, ?_, ?_, ?_, ?_⟩
  · intro token now
    exact ⟨fun error => verify_eq_error_iff, fun claims => verify_eq_ok_iff⟩
  · intro identity token s head now hs hhead hname
    rw [verify, hs]
    simp only
    rw [hhead, ok_bind, if_pos hname]
  · intro token hnot now later
    exact verify_congr hnot hnot (v.fault?_of_mem_authentication now later token)
  · intro token other s s' hs hs' hheader hsignature hnot hnot' now later
    exact verify_congr hnot hnot' (fault?_congr hs hs' hheader hsignature hnot hnot')
  · intro token now stage error hfirst hstage
    exact authentic_of_interpretation hfirst hstage
  · intro token now expiry hverify
    obtain ⟨stage, hfirst⟩ := verify_eq_error_iff.1 hverify
    -- the expiry is reported by the last stage alone
    cases reports_of_fault? (mem_of_firstFaultOf?_eq_some hfirst).2 with
    | expiry => exact authentic_of_interpretation hfirst (by decide)

/-- A header that names HS384 in front of nothing that could be read, an empty signature behind
    claims and behind a payload that is no base64url, and a credential on the second of its
    expiry. -/
theorem verify_in_stages_foreign_unsigned_and_expired :
    let i : Issuer := ⟨⟨"svc", "k"⟩, .hs256, none⟩
    let own := Credential.segment (Header.ofAlgorithm .hs256).text
    let foreign := Credential.segment (Header.ofAlgorithm .hs384).text
    let payload := Credential.segment (Claims.issue "svc" .epoch none 0).text
    let expiry : Instant := ⟨86400, 0, by decide, by decide, by decide⟩
    i.verifier.verify (foreign ++ "." ++ "!" ++ "." ++ "=") expiry =
        .error (.algorithmMismatch "HS256" "HS384") ∧
      (¬ i.verifier.Authentic (own ++ "." ++ payload ++ "." ++ "") ∧
        ¬ i.verifier.Authentic (own ++ "." ++ "!" ++ "." ++ "") ∧
        i.verifier.verify (own ++ "." ++ payload ++ "." ++ "") .epoch =
          i.verifier.verify (own ++ "." ++ "!" ++ "." ++ "") expiry) ∧
      i.verifier.verify (i.sign .epoch 0).token expiry =
        .error (.expired (i.sign .epoch 0).claims.expiresAt) ∧
      i.verifier.Authentic (i.sign .epoch 0).token := by
  intro i own foreign payload expiry
  obtain ⟨-, hforeign, -, hunsigned, -, hexpired⟩ := verify_in_stages i.verifier
  have hdots (text : String) : '.' ∉ (Credential.segment text).toList :=
    Base64url.dot_not_mem_encode _
  have hmark : '.' ∉ "!".toList := by decide
  have hnothing : '.' ∉ "".toList := by decide
  have hunread : Segments.of? (foreign ++ "." ++ "!" ++ "." ++ "=") =
      some ⟨foreign.toList, "!".toList, "=".toList⟩ := of?_join (hdots _) hmark (by decide)
  have hclaims : Segments.of? (own ++ "." ++ payload ++ "." ++ "") =
      some ⟨own.toList, payload.toList, "".toList⟩ := of?_join (hdots _) (hdots _) hnothing
  have hnoClaims : Segments.of? (own ++ "." ++ "!" ++ "." ++ "") =
      some ⟨own.toList, "!".toList, "".toList⟩ := of?_join (hdots _) hmark hnothing
  have hhead : content Header.read foreign.toList = .ok (Header.ofAlgorithm .hs384) :=
    content_eq_ok_iff.2 ⟨_, Base64url.toList_encode _, Header.read_text _⟩
  -- a signature is never empty
  have hempty (payload : String) (hpayload : '.' ∉ payload.toList) :
      ¬ i.verifier.Authentic (own ++ "." ++ payload ++ "." ++ "") := by
    rintro ⟨s, hs, hdecode⟩
    rw [of?_join (hdots _) hpayload hnothing] at hs
    have hsignature : s.signature = [] := (congrArg Segments.signature (Option.some.inj hs)).symm
    have hread : Base64url.decode (Utf8.encodeChars []) = .ok [] := rfl
    rw [hsignature, hread, Except.ok.injEq] at hdecode
    have hlength := congrArg List.length hdecode
    rw [Digest.Hmac.length_mac] at hlength
    exact absurd hlength (by decide)
  have hlate : i.verifier.verify (i.sign .epoch 0).token expiry =
      .error (.expired (i.sign .epoch 0).claims.expiresAt) := by
    rw [Issuer.verify_sign, if_neg (by decide)]
  refine ⟨?_, ⟨hempty payload (hdots _), hempty "!" hmark, ?_⟩, hlate, ?_⟩
  · exact hforeign i.identity _ _ _ expiry hunread hhead (by decide)
  · exact hunsigned _ _ _ _ hclaims hnoClaims rfl rfl (hempty payload (hdots _)) (hempty "!" hmark)
      .epoch expiry
  · exact hexpired _ expiry _ hlate

end Verifier

end AccessDecision
