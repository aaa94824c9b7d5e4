import AccessDecision.Credential.Token
import AccessDecision.Proofs.Json.Record

set_option autoImplicit false

/-! # Headers and claims are read as they were written

Both are flat records of distinct fields, so what remains to be shown is that their members give the
fields back (`Json.Layout.read_text` does the rest), for any texts and any 64-bit instants. -/

namespace AccessDecision

open Json Outcome

theorem Whole.toInt64?_ofInt64 (n : Int64) : (Whole.ofInt64 n).toInt64? = some n := by
  have hlt : n.toInt < 0x8000000000000000 := n.toInt_lt
  rw [Whole.toInt64?, Whole.ofInt64, if_pos hlt, Int64.ofInt_toInt]

namespace Header

theorem ofJson_members (h : Header) :
    layout.ofJson ofAssignment (.object [("alg", .string h.algorithm), ("typ", .string h.type)]) =
      .ok h := rfl

theorem read_text (h : Header) : read (Text.Utf8.encode h.text) = .ok h := by
  refine Layout.read_text (Layout.covers_of_isFlat ?_)
    (by simp [nestingMembers, nesting, depthLimit]) h.ofJson_members
  intro m hm
  simp only [List.mem_cons, List.not_mem_nil, or_false] at hm
  rcases hm with rfl | rfl
  · exact ⟨rfl, rfl⟩
  · exact ⟨rfl, rfl⟩

/-- The text of a header holds its two members. -/
theorem read_object (h : Header) : Json.read (Text.Utf8.encode h.text) =
    .ok (.object [("alg", .string h.algorithm), ("typ", .string h.type)]) := by
  have hsorted : Sorted [("alg", .string h.algorithm), ("typ", .string h.type)] := by
    simp only [Sorted, List.pairwise_pair]
    decide
  have hcanonical : (object [("alg", .string h.algorithm), ("typ", .string h.type)]).Canonical :=
    ⟨hsorted, trivial, trivial, trivial⟩
  rw [text, Json.read_text rfl (by simp [nesting, nestingMembers, depthLimit]),
    canonical_eq_self _ hcanonical]

end Header

namespace Claims

theorem asInt64_ofInt64 (n : Int64) : asInt64 (.whole (.ofInt64 n)) = .ok n := by
  simp only [asInt64, Whole.toInt64?_ofInt64]

theorem check_int64 (n : Int64) : Kind.int64.check (.whole (.ofInt64 n)) = .ok () := by
  rw [Kind.check, asInt64_ofInt64]
  rfl

/-- Claims are built from any assignment that gives their fields. -/
theorem ofAssignment_eq_ok {c : Claims} {a : Assignment}
    (hclient : a.string "client_id" = .ok c.clientId) (hissued : a.int64 "iat" = .ok c.issuedAt)
    (hexpires : a.int64 "exp" = .ok c.expiresAt) (hissuer : a.optionalString "iss" = .ok c.issuer)
    (hid : a.string "jti" = .ok c.id) : ofAssignment a = .ok c := by
  rw [ofAssignment, hclient, ok_bind, hissued, ok_bind, hexpires, ok_bind, hissuer, ok_bind, hid,
    ok_bind]

/-- The fields that every credential has, latest first. -/
def coreAssignment (c : Claims) : Assignment :=
  [("exp", .whole (.ofInt64 c.expiresAt)), ("iat", .whole (.ofInt64 c.issuedAt)),
    ("client_id", .string c.clientId)]

theorem assign_core (c : Claims) (rest : List (String × Json)) :
    layout.assign [] (("client_id", .string c.clientId) :: ("iat", .whole (.ofInt64 c.issuedAt)) ::
      ("exp", .whole (.ofInt64 c.expiresAt)) :: rest) = layout.assign c.coreAssignment rest := by
  rw [Layout.assign_known rfl rfl rfl, Layout.assign_known rfl rfl (check_int64 c.issuedAt),
    Layout.assign_known rfl rfl (check_int64 c.expiresAt), coreAssignment]

theorem ofJson_members (c : Claims) : layout.ofJson ofAssignment (.object c.members) = .ok c := by
  have hissued := asInt64_ofInt64 c.issuedAt
  have hexpires := asInt64_ofInt64 c.expiresAt
  cases hissuer : c.issuer with
  | none =>
    have hassign : layout.assign [] c.members =
        .ok (("jti", .string c.id) :: c.coreAssignment) := by
      rw [members, hissuer]
      exact (c.assign_core _).trans rfl
    rw [Layout.ofJson, Layout.assignment, hassign, ok_bind]
    exact ofAssignment_eq_ok rfl hissued hexpires (by rw [hissuer]; rfl) rfl
  | some name =>
    have hassign : layout.assign [] c.members =
        .ok (("jti", .string c.id) :: ("iss", .string name) :: c.coreAssignment) := by
      rw [members, hissuer]
      exact (c.assign_core _).trans rfl
    rw [Layout.ofJson, Layout.assignment, hassign, ok_bind]
    exact ofAssignment_eq_ok rfl hissued hexpires (by rw [hissuer]; rfl) rfl

theorem nesting_members (c : Claims) : nestingMembers c.members = 0 := by
  cases hissuer : c.issuer with
  | none | some name => simp [members, hissuer, nestingMembers, nesting]

/-- No member has parts, and each belongs to a field. -/
theorem flat_members (c : Claims) :
    ∀ m ∈ c.members, m.2.isFlat = true ∧ (layout.field? m.1).isSome := by
  intro m hm
  simp only [members, List.cons_append, List.mem_cons, List.mem_append, List.mem_map,
    Option.mem_toList, List.not_mem_nil, or_false] at hm
  rcases hm with rfl | rfl | rfl | ⟨name, -, rfl⟩ | rfl <;> exact ⟨rfl, rfl⟩

theorem read_text (c : Claims) : read (Text.Utf8.encode c.text) = .ok c :=
  Layout.read_text (Layout.covers_of_isFlat c.flat_members) (by rw [nesting_members]; decide)
    c.ofJson_members

theorem nodup_members (c : Claims) : (c.members.map Prod.fst).Nodup := by
  cases hissuer : c.issuer with
  | none | some name => simp [members, hissuer]

/-- The text of claims holds their members, in the order of the names. -/
theorem read_object (c : Claims) : ∃ members, Json.read (Text.Utf8.encode c.text) =
    .ok (.object members) ∧ ∀ name, lookup name members = lookup name c.members := by
  have hreal : hasRealMembers c.members = false := by
    cases hissuer : c.issuer with
    | none | some name => simp [members, hissuer, hasRealMembers, hasReal]
  have hcanonical : CanonicalMembers c.members := by
    cases hissuer : c.issuer with
    | none | some name => simp [members, hissuer, CanonicalMembers, Canonical]
  obtain ⟨members, hread, -, hperm⟩ := Json.read_object hreal
    (by rw [nesting_members]; decide) hcanonical c.nodup_members
  exact ⟨members, hread, fun name => (lookup_eq_of_perm c.nodup_members hperm.symm).symm⟩

/-- An issuer is among the members exactly if there is one. -/
theorem lookup_issuer (c : Claims) : lookup "iss" c.members = c.issuer.map .string := by
  cases hissuer : c.issuer with
  | none | some name => simp [members, hissuer, lookup]

end Claims

end AccessDecision
