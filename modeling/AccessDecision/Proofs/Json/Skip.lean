import AccessDecision.Proofs.Json.Parts

set_option autoImplicit false

/-! # Every text is passed over

The reader that passes over a value takes every text of the grammar, to any depth
(`skipValue_of_isText`). It is a machine with a stack of open brackets, so `Leads` follows it from
one place to another and counts its steps: a bracket that closes has left the stack as it was before
its opening, and no text takes more than two steps for each of its bytes. -/

namespace AccessDecision.Json

open Outcome Text.Utf8

variable {s t w rest : Bytes}

/-! ## What ends a number -/

theorem of_isSpace {b : UInt8} (h : isSpace b = true) :
    isDigit b = false ∧ b ≠ point ∧ isExponentMark b = false := by
  simp only [isSpace, Bool.or_eq_true, decide_eq_true_eq] at h
  rcases h with ((rfl | rfl) | rfl) | rfl <;> decide

theorem EndsNumber.cons {b : UInt8}
    (h : isDigit b = false ∧ b ≠ point ∧ isExponentMark b = false) (s : Bytes) :
    EndsNumber (b :: s) := by
  intro c r hcons
  obtain ⟨rfl, -⟩ := List.cons.inj hcons
  exact h

theorem EndsNumber.append (hw : IsBlank w) (h : EndsNumber s) : EndsNumber (w ++ s) := by
  cases w with
  | nil => exact h
  | cons b w => exact .cons (of_isSpace (hw b (List.mem_cons_self ..))) _

/-- What stands in front of an item that is not the first one. -/
theorem Lead.endsNumber (h : Lead false t) (s : Bytes) : EndsNumber (t ++ s) := by
  cases h with
  | later hw _ =>
    rw [List.append_assoc]
    exact .append hw (.cons (by decide) _)

/-! ## Numbers -/

theorem skipExponent_append {sign digits : Bytes}
    (hsign : sign = [] ∨ sign = [plusSign] ∨ sign = [minusSign]) (hdigits : IsDigits digits)
    (hrest : EndsNumber rest) : skipExponent (sign ++ (digits ++ rest)) = .ok rest := by
  obtain ⟨hne, hall⟩ := hdigits
  obtain ⟨d, ds, rfl⟩ := List.exists_cons_of_ne_nil hne
  have hd : isDigit d = true := hall d (List.mem_cons_self ..)
  have hspan := spanDigits_append (fun b hb => hall b (List.mem_cons_of_mem _ hb))
    (fun b r h => (hrest b r h).1)
  have hdrop : (ds ++ rest).dropWhile isDigit = rest := congrArg Prod.snd hspan
  unfold skipExponent
  rcases hsign with rfl | rfl | rfl
  · simp [ne_of_isDigit hd (show isDigit plusSign = false from rfl),
      ne_of_isDigit hd (show isDigit minusSign = false from rfl), hd, hdrop]
  · simp [hd, hdrop]
  · simp [hd, hdrop]

/-- What follows the digits of a number, at an exponent or at the end of the number. -/
theorem exponent_cases (h : IsExponent t) (hrest : EndsNumber rest) :
    t ++ rest = [] ∧ rest = [] ∨ ∃ b r, t ++ rest = b :: r ∧ isDigit b = false ∧ b ≠ point ∧
      (if isExponentMark b then skipExponent r else .ok (b :: r)) = .ok rest := by
  cases h with
  | none =>
    cases rest with
    | nil => exact Or.inl ⟨rfl, rfl⟩
    | cons b r =>
      obtain ⟨hdigit, hpoint, hmark⟩ := hrest b r rfl
      exact Or.inr ⟨b, r, rfl, hdigit, hpoint, by simp [hmark]⟩
  | @some mark sign digits hmark hsign hdigits =>
    refine Or.inr ⟨mark, sign ++ (digits ++ rest), by simp, ?_, ?_, ?_⟩
    · simp only [isExponentMark, Bool.or_eq_true, decide_eq_true_eq] at hmark
      rcases hmark with rfl | rfl <;> decide
    · rintro rfl
      exact absurd hmark (by decide)
    · rw [if_pos hmark, skipExponent_append hsign hdigits hrest]

theorem skipFraction_append {fraction exponent : Bytes} (hfraction : IsFraction fraction)
    (hexponent : IsExponent exponent) (hrest : EndsNumber rest) :
    skipFraction (fraction ++ (exponent ++ rest)) = .ok rest := by
  have htail := exponent_cases hexponent hrest
  cases hfraction with
  | none =>
    rw [List.nil_append]
    rcases htail with ⟨hnil, rfl⟩ | ⟨b, r, hcons, -, hpoint, hskip⟩
    · rw [hnil, skipFraction]
    · rw [hcons, skipFraction, if_neg hpoint, hskip]
  | some hdigits =>
    obtain ⟨d, ds, hdigit⟩ := List.exists_cons_of_ne_nil hdigits.1
    have hspan := spanDigits_append (t := exponent ++ rest) hdigits.2 (by
      intro b r h
      rcases htail with ⟨hnil, -⟩ | ⟨b', r', hcons', hdigit, -⟩
      · exact absurd (hnil.symm.trans h) (by simp)
      · rw [(List.cons.inj (h.symm.trans hcons')).1]
        exact hdigit)
    rw [List.cons_append, skipFraction, if_pos rfl, hspan, hdigit, List.map_cons]
    rcases htail with ⟨hnil, rfl⟩ | ⟨b, r, hcons, -, -, hskip⟩
    · rw [hnil]
    · rw [hcons]
      exact hskip

theorem fraction_cases {fraction exponent : Bytes} (hfraction : IsFraction fraction)
    (hexponent : IsExponent exponent) (hrest : EndsNumber rest) :
    ∀ b r, fraction ++ (exponent ++ rest) = b :: r → isDigit b = false := by
  intro b r h
  cases hfraction with
  | none =>
    rcases exponent_cases hexponent hrest with ⟨hnil, -⟩ | ⟨b', r', hcons, hdigit, -⟩
    · exact absurd (hnil.symm.trans h) (by simp)
    · rw [(List.cons.inj (h.symm.trans hcons)).1]
      exact hdigit
  | some =>
    rw [← (List.cons.inj h).1]
    decide

theorem eq_of_digitValue {d : UInt8} (hd : isDigit d = true) (h : digitValue d = 0) :
    d = 0x30 := by
  simp only [isDigit, Bool.and_eq_true, decide_eq_true_eq, UInt8.le_iff_toNat_le] at hd
  have hmin : (0x30 : UInt8).toNat = 48 := rfl
  refine UInt8.toNat_inj.1 ?_
  rw [digitValue] at h
  omega

/-- A number, after its sign. -/
theorem skipNumber_append {whole fraction exponent : Bytes} (hwhole : IsDigits whole)
    (hzero : ∀ more, whole = 0x30 :: more → more = []) (hfraction : IsFraction fraction)
    (hexponent : IsExponent exponent) (hrest : EndsNumber rest) :
    skipNumber (whole ++ (fraction ++ (exponent ++ rest))) = .ok rest := by
  have hspan := spanDigits_append hwhole.2 (fraction_cases hfraction hexponent hrest)
  obtain ⟨d, ds, rfl⟩ := List.exists_cons_of_ne_nil hwhole.1
  have hd : isDigit d = true := hwhole.2 d (List.mem_cons_self ..)
  rw [List.cons_append] at hspan ⊢
  unfold skipNumber
  simp only [hd, Bool.not_true, Bool.false_eq_true, if_false, hspan, List.map_cons]
  split
  · -- a leading zero with more digits behind it
    rename_i heq
    obtain ⟨hvalue, hmore⟩ := List.cons.inj (Prod.mk.inj heq).1
    rw [hzero ds (by rw [eq_of_digitValue hd hvalue])] at hmore
    exact absurd hmore (by simp)
  · rename_i heq
    rw [← (Prod.mk.inj heq).2]
    exact skipFraction_append hfraction hexponent hrest

/-! ## Strings -/

theorem skipString_hex {n : Nat} {digits : Bytes} (h : IsHex n digits) (s : Bytes) :
    skipString (.hex []) (digits ++ s) = skipString .plain s := by
  obtain ⟨hlength, hnumber⟩ := h
  match digits, hlength with
  | [a, b, c, d], _ =>
    simp only [List.cons_append, List.nil_append, skipString, List.length_nil, List.length_cons,
      Nat.reduceAdd, Nat.reduceLT, if_true, if_false, hnumber, Option.isSome_some]

/-- A string, after its opening quote. -/
theorem skipString_append (h : IsContent t) (rest : Bytes) :
    skipString .plain (t ++ quoteMark :: rest) = .ok rest := by
  induction h with
  | nil => rw [List.nil_append, skipString, if_pos rfl]
  | plain hplain _ ih =>
    simp only [isPlain, Bool.and_eq_true, decide_eq_true_eq] at hplain
    obtain ⟨⟨hquote, hslash⟩, hcontrol⟩ := hplain
    rw [List.cons_append, skipString, if_neg hquote, if_neg hslash,
      if_neg (UInt8.not_lt.2 hcontrol), ih]
  | letter hescape _ ih =>
    rw [List.cons_append, skipString, if_neg (by decide), if_pos rfl, List.cons_append, skipString,
      if_neg (ne_letterU_of_shortEscape? hescape), hescape, Option.isSome_some, if_pos rfl, ih]
  | hex hhex _ ih =>
    rw [List.cons_append, skipString, if_neg (by decide), if_pos rfl, List.cons_append, skipString,
      if_pos rfl, List.append_assoc, skipString_hex hhex, ih]

/-- A name and its colon. -/
theorem skipName_append {lead name : Bytes} (hlead : IsBlank lead) (hname : IsContent name)
    (hw : IsBlank w) (s : Bytes) :
    skipName (lead ++ (quoted name ++ (w ++ colon :: s))) = .ok s := by
  have hquote : isSpace quoteMark = false := by decide
  rw [skipName, skipSpace_append hlead, quoted, List.cons_append, skipSpace_cons hquote]
  simp only [if_true, List.append_assoc, List.singleton_append, skipString_append hname, ok_bind]
  exact readColon_append hw s

/-! ## Values without parts -/

/-- A text that is passed over at once, and starts neither with a bracket nor with a blank. -/
structure IsAtom (s : Bytes) : Prop where
  exists_cons : ∃ b r, s = b :: r ∧ isSpace b = false ∧ b ≠ openBracket ∧ b ≠ openBrace ∧
    b ≠ closeBracket
  skipScalar_eq : ∀ rest, EndsNumber rest → skipScalar (s ++ rest) = .ok rest

theorem isAtom_quoted (h : IsContent t) : IsAtom (quoted t) where
  exists_cons := ⟨_, _, rfl, by decide, by decide, by decide, by decide⟩
  skipScalar_eq := by
    intro rest _
    rw [quoted, List.cons_append, List.append_assoc, List.singleton_append, skipScalar]
    simp only [skipString_append h]
    rfl

theorem isAtom_number (h : IsNumber s) : IsAtom s := by
  obtain @⟨sign, whole, fraction, exponent, hsign, hwhole, hzero, hfraction, hexponent⟩ := h
  have hskip {rest : Bytes} (hrest : EndsNumber rest) :=
    skipNumber_append hwhole hzero hfraction hexponent hrest
  obtain ⟨d, ds, rfl⟩ := List.exists_cons_of_ne_nil hwhole.1
  have hd : isDigit d = true := hwhole.2 d (List.mem_cons_self ..)
  have hne {c : UInt8} (hc : isDigit c = false) : d ≠ c := ne_of_isDigit hd hc
  rcases hsign with rfl | rfl
  · refine ⟨⟨d, _, rfl, isSpace_of_isDigit hd, hne rfl, hne rfl, hne rfl⟩, ?_⟩
    intro rest hrest
    simp only [List.nil_append, List.cons_append, List.append_assoc] at hskip ⊢
    rw [skipScalar, if_neg (hne rfl), if_neg (hne rfl), if_neg (hne rfl), if_neg (hne rfl),
      if_pos hd, hskip hrest]
  · refine ⟨⟨minusSign, _, rfl, by decide, by decide, by decide, by decide⟩, ?_⟩
    intro rest hrest
    simp only [List.nil_append, List.cons_append, List.append_assoc] at hskip ⊢
    rw [skipScalar, if_neg (by decide), if_neg (by decide), if_neg (by decide), if_pos rfl,
      hskip hrest]

/-! ## Steps -/

/-- Where the reader stands: what it is about to meet, the open brackets, and what is left. -/
structure Place where
  expect : Expect
  stack : List Bracket
  left : Bytes

/-- The reader gets from one place to another in a number of steps, whatever it does next. -/
def Leads (n : Nat) (p q : Place) : Prop :=
  ∀ k, skipSteps (k + 1 + n) p.expect p.stack p.left = skipSteps (k + 1) q.expect q.stack q.left

variable {n m : Nat} {p q r : Place} {stack : List Bracket} {bracket : Bracket} {isFirst : Bool}

theorem Leads.trans (h : Leads n p q) (h' : Leads m q r) : Leads (n + m) p r := by
  intro k
  have hfirst := h (k + m)
  have hsecond := h' k
  rw [show k + 1 + (n + m) = k + m + 1 + n by omega, hfirst,
    show k + m + 1 = k + 1 + m by omega, hsecond]

/-- Inside brackets the reader expects something else in front of the first item. -/
def Expect.inside : (isFirst : Bool) → Expect
  | true => .firstOrEnd
  | false => .commaOrEnd

/-- Blanks in front of a value take no step of their own. -/
theorem leads_blank (hw : IsBlank w) (stack : List Bracket) (s : Bytes) :
    Leads 0 ⟨.value, stack, w ++ s⟩ ⟨.value, stack, s⟩ := by
  intro k
  simp only [skipSteps, skipSpace_append hw]

/-- Nor do blanks inside brackets. -/
theorem leads_blank_inside (hw : IsBlank w) (isFirst : Bool) (bracket : Bracket)
    (stack : List Bracket) (s : Bytes) :
    Leads 0 ⟨.inside isFirst, bracket :: stack, w ++ s⟩ ⟨.inside isFirst, bracket :: stack, s⟩ := by
  intro k
  cases isFirst with
  | true => simp only [Nat.add_zero, Expect.inside, skipSteps, skipSpace_append hw]
  | false => simp only [Nat.add_zero, Expect.inside, skipSteps, skipSpace_append hw]

theorem IsAtom.leads (h : IsAtom s) (stack : List Bracket) (hrest : EndsNumber rest) :
    Leads 1 ⟨.value, stack, s ++ rest⟩ ⟨.commaOrEnd, stack, rest⟩ := by
  intro k
  have hskip := h.skipScalar_eq rest hrest
  obtain ⟨b, r, rfl, hspace, hbracket, hbrace, -⟩ := h.exists_cons
  simp only [List.cons_append] at hskip ⊢
  rw [skipSteps, skipSpace_cons hspace]
  simp only [hbracket, hbrace, if_false, hskip, ok_bind]
  cases stack with
  | nil => rw [skipSteps_done]
  | cons => rfl

theorem leads_open (bracket : Bracket) (stack : List Bracket) (s : Bytes) :
    Leads 1 ⟨.value, stack, bracket.opening :: s⟩ ⟨.firstOrEnd, bracket :: stack, s⟩ := by
  intro k
  cases bracket with
  | list => rw [skipSteps, Bracket.opening, skipSpace_cons (by decide)]; rfl
  | object => rw [skipSteps, Bracket.opening, skipSpace_cons (by decide)]; rfl

theorem isSpace_closing (bracket : Bracket) : isSpace bracket.closing = false := by
  cases bracket <;> decide

theorem leads_close (isFirst : Bool) (bracket : Bracket) (stack : List Bracket) (s : Bytes) :
    Leads 1 ⟨.inside isFirst, bracket :: stack, bracket.closing :: s⟩
      ⟨.commaOrEnd, stack, s⟩ := by
  intro k
  cases isFirst with
  | true =>
    simp only [Expect.inside, skipSteps, skipSpace_cons (isSpace_closing bracket), if_true]
  | false =>
    simp only [Expect.inside, skipSteps, skipSpace_cons (isSpace_closing bracket), if_true]

/-- The reader turns to the value of an item. -/
theorem leads_item {b : UInt8} (hlead : Lead isFirst t) (hspace : isSpace b = false)
    (hclose : b ≠ closeBracket) (stack : List Bracket) (s : Bytes) :
    Leads 1 ⟨.inside isFirst, .list :: stack, t ++ b :: s⟩
      ⟨.value, .list :: stack, b :: s⟩ := by
  have hclosing : b ≠ Bracket.list.closing := hclose
  cases hlead with
  | first hw =>
    refine (leads_blank_inside hw true .list stack (b :: s)).trans (n := 0) (m := 1) ?_
    intro k
    simp only [Expect.inside, skipSteps, skipSpace_cons hspace, hclosing, if_false]
  | @later w w' hw hw' =>
    rw [List.append_assoc]
    refine (leads_blank_inside hw false .list stack _).trans (n := 0) (m := 1) ?_
    refine Leads.trans (n := 1) (m := 0) ?_ (leads_blank hw' (.list :: stack) (b :: s))
    intro k
    have hcomma : isSpace comma = false := by decide
    have hclosing : comma ≠ Bracket.list.closing := by decide
    simp only [Expect.inside, List.cons_append, skipSteps, skipSpace_cons hcomma, hclosing,
      if_false, if_true]

/-- The reader passes over the name of a member and turns to its value. -/
theorem leads_member {name : Bytes} (hlead : Lead isFirst t) (hname : IsContent name)
    (hw : IsBlank w) (stack : List Bracket) (s : Bytes) :
    Leads 1 ⟨.inside isFirst, .object :: stack, t ++ (quoted name ++ (w ++ colon :: s))⟩
      ⟨.value, .object :: stack, s⟩ := by
  cases hlead with
  | first hlead =>
    refine (leads_blank_inside hlead true .object stack _).trans (n := 0) (m := 1) ?_
    intro k
    have hskip := skipName_append isBlank_nil hname hw s
    have hquote : isSpace quoteMark = false := by decide
    have hclosing : quoteMark ≠ Bracket.object.closing := by decide
    simp only [quoted, List.nil_append, List.cons_append] at hskip ⊢
    simp only [Expect.inside, skipSteps, skipSpace_cons hquote, hclosing, if_false, hskip, ok_bind]
  | @later v v' hv hv' =>
    rw [List.append_assoc]
    refine (leads_blank_inside hv false .object stack _).trans (n := 0) (m := 1) ?_
    intro k
    have hcomma : isSpace comma = false := by decide
    have hclosing : comma ≠ Bracket.object.closing := by decide
    simp only [Expect.inside, List.cons_append, skipSteps, skipSpace_cons hcomma, hclosing,
      if_false, if_true, skipName_append hv' hname hw s, ok_bind]

/-! ## Values -/

/-- What is left inside brackets does not go on with a number. -/
theorem IsText.endsNumber (h : IsText (.inside bracket false) s) (rest : Bytes) :
    EndsNumber (s ++ bracket.closing :: rest) := by
  have hclosing : isDigit bracket.closing = false ∧ bracket.closing ≠ point ∧
      isExponentMark bracket.closing = false := by
    cases bracket <;> decide
  cases h with
  | close hw => exact .append hw (.cons hclosing _)
  | item hlead =>
    rw [List.append_assoc]
    exact hlead.endsNumber _
  | member hlead =>
    rw [List.append_assoc]
    exact hlead.endsNumber _

/-- The text of a value starts neither with a blank nor with the end of a list. -/
theorem IsText.exists_cons (h : IsText .value s) :
    ∃ b r, s = b :: r ∧ isSpace b = false ∧ b ≠ closeBracket := by
  have hatom (h : IsAtom s) : ∃ b r, s = b :: r ∧ isSpace b = false ∧ b ≠ closeBracket := by
    obtain ⟨b, r, hcons, hspace, -, -, hclose⟩ := h.exists_cons
    exact ⟨b, r, hcons, hspace, hclose⟩
  cases h with
  | nullWord | trueWord | falseWord => exact ⟨_, _, rfl, by decide, by decide⟩
  | number hnumber => exact hatom (isAtom_number hnumber)
  | string hcontent => exact hatom (isAtom_quoted hcontent)
  | @brackets bracket =>
    refine ⟨_, _, rfl, ?_⟩
    cases bracket <;> decide

/-- What it takes to pass over the text of a value, or over what is left inside brackets and the
    bracket that closes them. A list or an object that is not empty takes one step to turn to its
    first item, for which the closing bracket makes up. -/
def Part.IsPassed : Part → Bytes → Prop
  | .value, s => ∃ n ≤ 2 * s.length, ∀ stack rest, EndsNumber rest →
      Leads n ⟨.value, stack, s ++ rest⟩ ⟨.commaOrEnd, stack, rest⟩
  | .inside bracket isFirst, s => ∃ n ≤ 2 * s.length + 1 + isFirst.toNat, ∀ stack rest,
      Leads n ⟨.inside isFirst, bracket :: stack, s ++ bracket.closing :: rest⟩
        ⟨.commaOrEnd, stack, rest⟩

theorem IsAtom.isPassed (h : IsAtom s) : Part.value.IsPassed s := by
  refine ⟨1, ?_, fun stack rest => h.leads stack⟩
  obtain ⟨b, r, rfl, -⟩ := h.exists_cons
  rw [List.length_cons]
  omega

theorem IsText.isPassed {part : Part} (h : IsText part s) : part.IsPassed s := by
  induction h with
  | nullWord | trueWord | falseWord =>
    exact IsAtom.isPassed ⟨⟨_, _, rfl, by decide, by decide, by decide, by decide⟩,
      fun _ _ => rfl⟩
  | number hnumber => exact (isAtom_number hnumber).isPassed
  | string hcontent => exact (isAtom_quoted hcontent).isPassed
  | @brackets bracket s _ ih =>
    obtain ⟨n, hn, hinside⟩ := ih
    refine ⟨1 + n, ?_, ?_⟩
    · simp only [List.length_cons, List.length_append, List.length_nil, Bool.toNat_true] at hn ⊢
      omega
    · intro stack rest _
      rw [List.cons_append, List.append_assoc, List.singleton_append]
      exact (leads_open bracket stack _).trans (hinside stack rest)
  | @close bracket isFirst w hw =>
    refine ⟨0 + 1, by omega, ?_⟩
    intro stack rest
    exact (leads_blank_inside hw isFirst bracket stack _).trans
      (leads_close isFirst bracket stack rest)
  | @item isFirst lead v s hlead hv hs ihv ihs =>
    obtain ⟨n, hn, hvalue⟩ := ihv
    obtain ⟨m, hm, hleft⟩ := ihs
    obtain ⟨b, r, rfl, hspace, hclose⟩ := hv.exists_cons
    refine ⟨1 + n + m, ?_, ?_⟩
    · cases hlead with
      | first => simp only [List.length_append, Bool.toNat_true, Bool.toNat_false] at hm ⊢; omega
      | later =>
        simp only [List.length_append, List.length_cons, Bool.toNat_false] at hn hm ⊢
        omega
    · intro stack rest
      rw [List.append_assoc, List.append_assoc, List.cons_append]
      have hitem := leads_item hlead hspace hclose stack (r ++ (s ++ closeBracket :: rest))
      exact (hitem.trans (hvalue (.list :: stack) _ (hs.endsNumber rest))).trans (hleft stack rest)
  | @member isFirst lead name w w' v s hlead hname hw hw' hv hs ihv ihs =>
    obtain ⟨n, hn, hvalue⟩ := ihv
    obtain ⟨m, hm, hleft⟩ := ihs
    refine ⟨1 + 0 + n + m, ?_, ?_⟩
    · simp only [List.length_append, List.length_cons, Bool.toNat_false] at hn hm ⊢
      omega
    · intro stack rest
      have hmember := leads_member hlead hname hw stack (w' ++ (v ++ (s ++ closeBrace :: rest)))
      have hblank := leads_blank hw' (.object :: stack) (v ++ (s ++ closeBrace :: rest))
      simp only [List.append_assoc, List.cons_append]
      exact ((hmember.trans hblank).trans (hvalue (.object :: stack) _ (hs.endsNumber rest))).trans
        (hleft stack rest)

/-- The text of a value is passed over, and no more. -/
theorem skipValue_of_isText (h : IsText .value t) (hw : IsBlank w) (hrest : EndsNumber rest) :
    skipValue (w ++ (t ++ rest)) = .ok rest := by
  obtain ⟨n, hn, hvalue⟩ := h.isPassed
  have hleads := (leads_blank hw [] (t ++ rest)).trans (hvalue [] rest hrest)
  have hlength : t.length ≤ (w ++ (t ++ rest)).length := by
    simp only [List.length_append]
    omega
  have hall := hleads (2 * (w ++ (t ++ rest)).length + 1 - n)
  rw [show 2 * (w ++ (t ++ rest)).length + 1 - n + 1 + (0 + n) =
    2 * (w ++ (t ++ rest)).length + 2 by omega] at hall
  rw [skipValue, hall, skipSteps_done]

end AccessDecision.Json
