import AccessDecision.Json.Record
import AccessDecision.Proofs.Json.Value

set_option autoImplicit false

/-! # Reading back a written record

The reader of texts takes the members of a written object one by one, as the reader of values does
(`Layout.readFields_leftChars`), so whatever is read off the value is read off its text:
`Layout.readRecord_text`, as long as no member nests too deep. -/

namespace AccessDecision.Json

open Outcome Text.Utf8

/-! ## Fields -/

/-- A field that expects something takes no value with parts. -/
theorem isFlat_of_check {kind : Kind} {expected : Expectation} {v : Json}
    (hexpected : kind.expectation = some expected) (hreal : v.hasReal = false)
    (hcheck : kind.check v = .ok ()) : v.isFlat = true := by
  match v, hreal with
  | .null, _ | .bool _, _ | .whole _, _ | .string _, _ => rfl
  | .array _, _ | .object _, _ =>
    cases kind with
    | boolean | string | optionalString | int64 =>
      simp [Kind.check, asBool, asString, asOptionalString, asInt64, Except.map] at hcheck
    | anything => simp [Kind.expectation] at hexpected

theorem nesting_of_isFlat {v : Json} (hv : v.isFlat = true) : v.nesting = 0 := by
  match v, hv with
  | .null, _ | .bool _, _ | .whole _, _ | .string _, _ => rfl

/-- Whatever spells a value of the kind of a field is read as that value. -/
theorem readKind_spells {kind : Kind} {v : Json} {t w : Bytes} (h : Spells v t)
    (hcheck : kind.check v = .ok ()) (hw : IsBlank w) (depth : Nat) {rest : Bytes}
    (hrest : EndsNumber rest) : readKind kind depth (w ++ (t ++ rest)) = .ok (v, rest) := by
  have hread := readScalar_spells h hrest
  obtain ⟨b, r, rfl, hspace, hbracket, hbrace, -⟩ := exists_cons_of_spells h
  rw [List.cons_append] at hread
  have hskip : skipSpace (w ++ (b :: r ++ rest)) = b :: (r ++ rest) := by
    rw [skipSpace_append hw, List.cons_append, skipSpace_cons hspace]
  unfold readKind
  -- a field without an expectation takes any value, so the general reader takes it
  cases kind.expectation with
  | none =>
    simp only [readValue, hskip, hbracket, hbrace, if_false]
    exact hread
  | some expected =>
    simp only [hskip, hbracket, hbrace, if_false, hread, ok_bind, hcheck]

/-- A value of the kind of a field comes back as that field. -/
theorem readKind_chars {kind : Kind} {v : Json} {depth : Nat} {rest : Bytes}
    (hreal : v.hasReal = false) (hcanonical : v.Canonical) (hcheck : kind.check v = .ok ())
    (hpos : 0 < depth) (hrest : EndsNumber rest) :
    ReadsTo depth v.nesting v rest (readKind kind depth (encodeChars v.chars ++ rest)) := by
  cases hexpected : kind.expectation with
  | none =>
    have hread := readValue_chars v (2 * (encodeChars v.chars ++ rest).length + 2) depth rest hreal
      hpos (by rw [List.length_append]; omega) hrest
    rw [readKind, hexpected]
    rwa [canonical_eq_self v hcanonical] at hread
  | some expected =>
    have hflat := isFlat_of_check hexpected hreal hcheck
    rw [nesting_of_isFlat hflat]
    exact .of_eq hpos (readKind_spells (spells_chars hflat) hcheck isBlank_nil depth hrest)

/-! ## Records -/

/-- The members of a record's own fields, canonical and without real numbers. -/
def Layout.Covers (l : Layout) (members : List (String × Json)) : Prop :=
  ∀ m ∈ members, m.2.hasReal = false ∧ m.2.Canonical ∧ (l.field? m.1).isSome

theorem Layout.covers_of_isFlat {l : Layout} {members : List (String × Json)}
    (h : ∀ m ∈ members, m.2.isFlat = true ∧ (l.field? m.1).isSome) : l.Covers members := by
  rintro ⟨name, v⟩ hm
  obtain ⟨hflat, hknown⟩ := h _ hm
  match v, hflat with
  | .null, _ | .bool _, _ | .whole _, _ | .string _, _ => exact ⟨rfl, trivial, hknown⟩

theorem Layout.assign_known {l : Layout} {a : Assignment} {f : Field} {name : String} {v : Json}
    {rest : List (String × Json)} (hfield : l.field? name = some f)
    (hfresh : (a.value? f.name).isSome = false) (hcheck : f.kind.check v = .ok ()) :
    l.assign a ((name, v) :: rest) = l.assign ((f.name, v) :: a) rest := by
  rw [Layout.assign, hfield]
  simp only [hfresh, Bool.false_eq_true, if_false, hcheck, ok_bind]

/-- What it takes to assign one more member. -/
theorem Layout.assign_cons {l : Layout} {a a' : Assignment} {m : String × Json}
    {members : List (String × Json)} (hknown : (l.field? m.1).isSome)
    (h : l.assign a (m :: members) = .ok a') :
    ∃ f, l.field? m.1 = some f ∧ (a.value? f.name).isSome = false ∧ f.kind.check m.2 = .ok () ∧
      l.assign ((f.name, m.2) :: a) members = .ok a' := by
  obtain ⟨f, hf⟩ := Option.isSome_iff_exists.1 hknown
  rw [Layout.assign, hf] at h
  simp only at h
  split at h
  · exact absurd h (by simp)
  · rename_i hfresh
    obtain ⟨⟨⟩, hcheck, hrest⟩ := bind_eq_ok_iff.1 h
    exact ⟨f, hf, by simpa using hfresh, hcheck, hrest⟩

theorem Layout.readFields_close (l : Layout) (depth steps : Nat) (isFirst : Bool) (a : Assignment)
    (rest : Bytes) :
    l.readFields depth (steps + 1) isFirst a (closeBrace :: rest) =
      .ok (a, closeBrace :: rest) := by
  rw [Layout.readFields, nextName_close, ok_bind]

section Member

variable {l : Layout} {isFirst : Bool} {a : Assignment} {name : String} {s r r' : Bytes}
  (hname : nextName isFirst s = .ok (some (name, r))) (hcolon : readColon r = .ok r')

include hname hcolon

/-- The reader of texts turns to the value of a member of a field that is not assigned yet. -/
theorem Layout.readFields_member {f : Field} (hfield : l.field? name = some f)
    (hfresh : (a.value? f.name).isSome = false) (depth steps : Nat) :
    l.readFields depth (steps + 1) isFirst a s = (do
      let (v, r) ← readKind f.kind depth r'
      l.readFields depth steps false ((f.name, v) :: a) r) := by
  rw [Layout.readFields, hname, ok_bind]
  simp only [hfield, hfresh, Bool.false_eq_true, if_false]
  rw [hcolon, ok_bind]

/-- It passes over a member of no field. -/
theorem Layout.readFields_other (hfield : l.field? name = none) (depth steps : Nat) :
    l.readFields depth (steps + 1) isFirst a s = (do
      l.readFields depth steps false a (← skipValue r')) := by
  rw [Layout.readFields, hname, ok_bind]
  simp only [hfield]
  rw [hcolon, ok_bind]

end Member

/-- The members that are left, up to the closing brace. -/
theorem Layout.readFields_leftChars {l : Layout} {depth steps : Nat}
    {members : List (String × Json)} {a a' : Assignment} (hpos : 0 < depth) (isFirst : Bool)
    (rest : Bytes) (hsteps : (encodeChars (leftChars isFirst members)).length < steps)
    (hcovers : l.Covers members) (h : l.assign a members = .ok a') :
    ReadsTo depth (nestingMembers members) a' (closeBrace :: rest)
      (l.readFields depth steps isFirst a
        (encodeChars (leftChars isFirst members) ++ closeBrace :: rest)) := by
  induction members generalizing isFirst a steps with
  | nil =>
    obtain ⟨steps, rfl⟩ : ∃ n, steps = n + 1 := ⟨steps - 1, by omega⟩
    simp only [Layout.assign, Except.ok.injEq] at h
    subst h
    rw [leftChars_nil, encodeChars_nil, List.nil_append]
    exact .of_eq hpos (l.readFields_close depth steps isFirst a rest)
  | cons m members ih =>
    obtain ⟨steps, rfl⟩ : ∃ n, steps = n + 1 := ⟨steps - 1, by omega⟩
    obtain ⟨name, v⟩ := m
    obtain ⟨hreal, hcanonical, hknown⟩ := hcovers _ (List.mem_cons_self ..)
    obtain ⟨f, hfield, hfresh, hcheck, h⟩ := Layout.assign_cons hknown h
    have hmore := (length_leftChars_cons isFirst name v members).2
    have hvalue := readKind_chars hreal hcanonical hcheck hpos (endsNumber_moreChars members rest)
    rw [Layout.readFields_member (nextName_leftChars isFirst (name, v) members _)
      (readColon_cons _) hfield hfresh]
    refine hvalue.bind ?_
    -- what is left stands after this member now
    exact ih false (show (encodeChars (moreChars members)).length < steps by omega)
      (fun n hn => hcovers n (List.mem_cons_of_mem _ hn)) h

theorem encode_object_text (members : List (String × Json)) :
    encode (Json.object members).text =
      openBrace :: (encodeChars (membersChars members) ++ [closeBrace]) := by
  rw [encode, text, String.toList_ofList, chars, encodeChars_append]
  rfl

/-- What is read off an object is read off its text. -/
theorem Layout.readRecord_text {α : Type} {l : Layout} {build : Assignment → Except Cause α}
    {members : List (String × Json)} {record : α} (hcovers : l.Covers members)
    (h : l.ofJson build (.object members) = .ok record) :
    ReadsTo (depthLimit - 1) (nestingMembers members) record []
      (l.readRecord build (encode (Json.object members).text)) := by
  obtain ⟨a, hassign, hbuild⟩ := bind_eq_ok_iff.1 h
  have hpos : 0 < depthLimit - 1 := by decide
  rw [encode_object_text, Layout.readRecord, skipSpace_cons (by decide),
    ← Nat.max_zero (nestingMembers members)]
  simp only [if_true]
  rw [if_neg (by decide)]
  -- the reader gets one step for each byte that is left
  refine (Layout.readFields_leftChars hpos true [] ?_ hcovers hassign).bind (.of_eq hpos ?_)
  · rw [leftChars, List.length_append]
    omega
  · simp only [hbuild]
    rfl

theorem Layout.read_text {α : Type} {l : Layout} {build : Assignment → Except Cause α}
    {members : List (String × Json)} {record : α} (hcovers : l.Covers members)
    (hnesting : nestingMembers members < depthLimit - 1)
    (h : l.ofJson build (.object members) = .ok record) :
    l.read build (encode (Json.object members).text) = .ok record := by
  rw [Layout.read, readAll, (Layout.readRecord_text hcovers h).of_lt hnesting]
  rfl

end AccessDecision.Json
