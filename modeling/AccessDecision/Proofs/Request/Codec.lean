import AccessDecision.Proofs.Json.Record
import AccessDecision.Proofs.Request.Building

set_option autoImplicit false

/-! # A request is read as it was written

The reader of a request builds a draft from the members and then checks it as a new request is
checked. The members of a request give its own draft (`ofJson_members`), and the checks give the
request back (`toRequest_draft`). Only the reader of texts can stop before, at a bracket that is too
deep. -/

namespace AccessDecision.Request

open AccessDecision.Outcome AccessDecision.Json

variable {purpose : Purpose}

/-! ## The parts of a request -/

/-- The parts of a request. -/
def draft (r : Request purpose) : Draft := ⟨r.tenant, r.subject, r.resource, r.action, r.details⟩

/-- Canonical details are kept as they are. -/
theorem structured_json {v : Json} (hv : v.isStructured = true) (hcanonical : v.Canonical) :
    structured purpose (.json v) = .ok ⟨v, hv, hcanonical⟩ := by
  have hjson : (Attachment.json v).toJson = .ok v := by
    rw [Attachment.toJson, Attachment.plain, Except.map, canonical_eq_self v hcanonical]
  exact structured_of_structured purpose hjson hv

/-- A request passes the checks of a request. -/
theorem toRequest_draft (r : Request purpose) : r.draft.toRequest purpose = .ok r := by
  rw [Draft.toRequest, draft, make_of_not_blank purpose r.subject_not_blank r.resource_not_blank
    r.action_not_blank, ok_bind, withDetails,
    structured_json r.details_structured r.details_canonical, ok_bind, ok_bind]

theorem ofJson_members (r : Request purpose) :
    (layout purpose).ofJson (Draft.ofAssignment purpose) (.object r.members) = .ok r.draft := by
  rw [members, draft]
  cases purpose with
  | access => cases r.tenant with
    | none => rfl
    | some tenant => rfl
  | simulation => cases r.tenant with
    | none => rfl
    | some tenant => rfl

theorem nesting_members (r : Request purpose) : nestingMembers r.members = r.details.nesting := by
  cases htenant : r.tenant with
  | none | some tenant => simp [members, htenant, nestingMembers, nesting]

theorem covers_members {r : Request purpose} (h : r.details.hasReal = false) :
    (layout purpose).Covers r.members := by
  intro m hm
  simp only [members, List.mem_append, List.mem_map, Option.mem_toList, List.mem_cons,
    List.not_mem_nil, or_false] at hm
  rcases hm with ⟨tenant, -, rfl⟩ | rfl | rfl | rfl | rfl
  · exact ⟨rfl, trivial, rfl⟩
  · exact ⟨rfl, trivial, rfl⟩
  · exact ⟨rfl, trivial, rfl⟩
  · exact ⟨rfl, trivial, rfl⟩
  · refine ⟨h, r.details_canonical, ?_⟩
    cases purpose with
    | access => rfl
    | simulation => rfl

/-! ## Details of any depth -/

/-- An empty object within a number of lists. -/
def listed : Nat → Json
  | 0 => .object []
  | n + 1 => .array [listed n]

theorem listed_structured (n : Nat) : (listed n).isStructured = true := by
  cases n with
  | zero => rfl
  | succ n => rfl

theorem listed_canonical (n : Nat) : (listed n).Canonical := by
  induction n with
  | zero => exact ⟨List.Pairwise.nil, trivial⟩
  | succ n ih => exact ⟨ih, trivial⟩

theorem hasReal_listed (n : Nat) : (listed n).hasReal = false := by
  induction n with
  | zero => rfl
  | succ n ih => simp [listed, hasReal, hasRealItems, ih]

theorem nesting_listed (n : Nat) : (listed n).nesting = n + 1 := by
  induction n with
  | zero => rfl
  | succ n ih => simp [listed, nesting, nestingItems, ih]

/-! ## The way back -/

/-- Nothing else is read off the text of a request. -/
theorem eq_of_read_text {r other : Request purpose} (h : r.details.hasReal = false)
    (hread : read purpose (Text.Utf8.encode r.text) = .ok other) : other = r := by
  have hrecord := Layout.readRecord_text (covers_members h) r.ofJson_members
  rw [text, read] at hread
  by_cases hdeep : nestingMembers r.members < depthLimit - 1
  · rw [hrecord.of_lt hdeep] at hread
    simp only [toRequest_draft] at hread
    exact (Except.ok.inj hread).symm
  · -- a text that is too deep is not read at all
    obtain ⟨rest, herror⟩ := hrecord.of_le (Nat.le_of_not_lt hdeep)
    rw [herror] at hread
    exact absurd hread (by simp)

/-- **A request comes back from its text.** Whatever its texts and its tenant, a request whose
    numbers are whole is read back exactly as it was if its details nest 126 lists and objects at
    most, and not at all if they nest more. -/
theorem read_text_exact (r : Request purpose) (h : r.details.hasReal = false) :
    (r.details.nesting ≤ 126 → read purpose (Text.Utf8.encode r.text) = .ok r) ∧
      (126 < r.details.nesting → ∃ position,
        read purpose (Text.Utf8.encode r.text) = .error (.json ⟨.tooDeep, some position⟩)) := by
  have hrecord := Layout.readRecord_text (covers_members h) r.ofJson_members
  rw [nesting_members] at hrecord
  rw [text, read]
  constructor
  · intro hnesting
    rw [hrecord.of_lt (Nat.lt_succ_of_le hnesting)]
    simp only [toRequest_draft]
    rfl
  · intro hnesting
    obtain ⟨rest, hdeep⟩ := hrecord.of_le hnesting
    exact ⟨_, by rw [hdeep]; rfl⟩

/-- On behalf of the tenant whose name is empty, with details that nest 126 deep and one deeper. -/
theorem read_text_exact_around_limit :
    let request (n : Nat) : Request .access := ⟨some "", "alice", "doc42", "read", listed n,
      by decide, by decide, by decide, listed_structured n, listed_canonical n⟩
    (listed 125).hasReal = false ∧ (listed 125).nesting = 126 ∧
      read .access (Text.Utf8.encode (request 125).text) = .ok (request 125) ∧
      (listed 126).hasReal = false ∧ (listed 126).nesting = 127 ∧
      ∃ position, read .access (Text.Utf8.encode (request 126).text) =
        .error (.json ⟨.tooDeep, some position⟩) := by
  intro request
  exact ⟨hasReal_listed 125, nesting_listed 125,
    (read_text_exact (request 125) (hasReal_listed 125)).1 (Nat.le_of_eq (nesting_listed 125)),
    hasReal_listed 126, nesting_listed 126,
    (read_text_exact (request 126) (hasReal_listed 126)).2
      (Nat.lt_of_lt_of_eq (by decide) (nesting_listed 126).symm)⟩

end AccessDecision.Request
