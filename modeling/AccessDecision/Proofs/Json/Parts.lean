import AccessDecision.Json.Read
import AccessDecision.Proofs.Json.Number
import AccessDecision.Proofs.Json.String

set_option autoImplicit false

/-! # The parts of a written value

A value without real numbers is a word, a whole number or a string, which the reader takes as a
whole, however it is spelled (`readScalar_spells`), or a list or an object, whose items and members
it takes one by one. Here is what one step of it comes to (`readItems_cons`, `readMembers_cons`).
Each step leaves fewer bytes for those after it (`length_leftItemsChars_cons`,
`length_leftChars_cons`), so the reader never runs out of steps. -/

namespace AccessDecision.Json

open Outcome Text.Utf8

/-! ## Values without parts -/

/-- A word, a whole number or a string. -/
def isFlat : Json → Bool
  | .null | .bool _ | .whole _ | .string _ => true
  | .real _ | .array _ | .object _ => false

theorem encodeChars_stringChars (s : String) :
    encodeChars (stringChars s) = quoteMark :: (encodeChars (s.toList.flatMap escapedChar) ++
      [quoteMark]) := by
  rw [stringChars, encodeChars_append]
  rfl

/-- A digit in front of a number, or its sign. -/
theorem encodeChars_intChars (n : Int) :
    encodeChars (Text.intChars n) =
      if n < 0 then minusSign :: encodeChars (Text.natChars n.natAbs)
      else encodeChars (Text.natChars n.natAbs) := by
  unfold Text.intChars
  split <;> rfl

theorem encodeChars_natChars_cons (n : Nat) :
    ∃ b r, encodeChars (Text.natChars n) = b :: r ∧ isDigit b = true := by
  obtain ⟨c, cs, hchars⟩ : ∃ c cs, Text.natChars n = c :: cs :=
    List.exists_cons_of_ne_nil Nat.toDigits_ne_nil
  have hc : 0x30 ≤ c.toNat ∧ c.toNat ≤ 0x39 :=
    isDigit_of_mem_natChars (by rw [hchars]; exact List.mem_cons_self)
  rw [hchars, encodeChars_cons, utf8EncodeChar_ascii (by omega)]
  exact ⟨_, _, rfl, (digit_byte hc).2⟩

theorem ne_of_isDigit {b c : UInt8} (hb : isDigit b = true) (hc : isDigit c = false) : b ≠ c := by
  rintro rfl
  rw [hb] at hc
  exact absurd hc (by simp)

theorem isSpace_of_isDigit {b : UInt8} (hb : isDigit b = true) : isSpace b = false := by
  simp [isSpace, ne_of_isDigit hb (c := 0x20) rfl, ne_of_isDigit hb (c := 0x09) rfl,
    ne_of_isDigit hb (c := 0x0A) rfl, ne_of_isDigit hb (c := 0x0D) rfl]

/-- What spells a value starts with a byte that is neither space nor a bracket. -/
theorem exists_cons_of_spells {v : Json} {t : Bytes} (h : Spells v t) :
    ∃ b r, t = b :: r ∧ isSpace b = false ∧ b ≠ openBracket ∧ b ≠ openBrace ∧
      b ≠ closeBracket := by
  cases h with
  | nullWord => exact ⟨_, _, rfl, by decide, by decide, by decide, by decide⟩
  | trueWord => exact ⟨_, _, rfl, by decide, by decide, by decide, by decide⟩
  | falseWord => exact ⟨_, _, rfl, by decide, by decide, by decide, by decide⟩
  | string => exact ⟨_, _, rfl, by decide, by decide, by decide, by decide⟩
  | whole w =>
    rw [encodeChars_intChars]
    split
    · exact ⟨_, _, rfl, by decide, by decide, by decide, by decide⟩
    · obtain ⟨b, r, hcons, hdigit⟩ := encodeChars_natChars_cons w.val.natAbs
      exact ⟨b, r, hcons, isSpace_of_isDigit hdigit, ne_of_isDigit hdigit rfl,
        ne_of_isDigit hdigit rfl, ne_of_isDigit hdigit rfl⟩

/-- Whatever spells a value is read as that value. -/
theorem readScalar_spells {v : Json} {t : Bytes} (h : Spells v t) {rest : Bytes}
    (hrest : EndsNumber rest) : readScalar (t ++ rest) = .ok (v, rest) := by
  cases h with
  | nullWord | trueWord | falseWord => rfl
  | string hcontent =>
    rw [quoted, List.cons_append, List.append_assoc, List.singleton_append, readScalar]
    simp only [readString_spells hcontent]
    rfl
  | whole w =>
    have hmax := w.lt_top
    have hmin := w.min_le
    have hwhole := wholeOrReal_whole w rest
    rw [encodeChars_intChars]
    by_cases hneg : w.val < 0
    · rw [decide_eq_true hneg] at hwhole
      rw [if_pos hneg, List.cons_append, readScalar, if_neg (by decide), if_neg (by decide),
        if_neg (by decide), if_pos rfl, readNumber_natChars (by omega) hrest, hwhole]
    · rw [decide_eq_false hneg] at hwhole
      have hread : readNumber false (encodeChars (Text.natChars w.val.natAbs) ++ rest) =
          .ok (.whole w, rest) := by
        rw [readNumber_natChars (by omega) hrest, hwhole]
      obtain ⟨b, r, hcons, hdigit⟩ := encodeChars_natChars_cons w.val.natAbs
      rw [if_neg hneg]
      rw [hcons, List.cons_append] at hread ⊢
      rw [readScalar, if_neg (ne_of_isDigit hdigit rfl), if_neg (ne_of_isDigit hdigit rfl),
        if_neg (ne_of_isDigit hdigit rfl), if_neg (ne_of_isDigit hdigit rfl), if_pos hdigit, hread]

/-- The text of a flat value spells it. -/
theorem spells_chars {v : Json} (hv : v.isFlat = true) : Spells v (encodeChars v.chars) := by
  match v, hv with
  | .null, _ => exact .nullWord
  | .bool true, _ => exact .trueWord
  | .bool false, _ => exact .falseWord
  | .whole w, _ => exact .whole w
  | .string s, _ =>
    rw [chars, encodeChars_stringChars]
    exact .string (spells_escapedChars s.toList)

theorem skipSpace_cons {b : UInt8} (hb : isSpace b = false) (s : Bytes) :
    skipSpace (b :: s) = b :: s := by
  rw [skipSpace, List.dropWhile_cons_of_neg (by simp [hb])]

theorem skipSpace_append {w : Bytes} (hw : IsBlank w) (s : Bytes) :
    skipSpace (w ++ s) = skipSpace s :=
  List.dropWhile_append_of_pos hw

/-! ## Members -/

/-- A member with the comma in front of it. -/
def moreChars (members : List (String × Json)) : List Char :=
  members.flatMap fun m => ',' :: stringChars m.1 ++ ':' :: m.2.chars

theorem membersChars_cons (m : String × Json) (members : List (String × Json)) :
    membersChars (m :: members) = stringChars m.1 ++ ':' :: m.2.chars ++ moreChars members := by
  induction members generalizing m with
  | nil => simp [membersChars, moreChars]
  | cons n members ih =>
    rw [membersChars, ih n]
    simp [moreChars]

/-- What comes after commas does not go on with a number, and neither does a bracket. -/
theorem endsNumber_flatMap {α : Type} (chars : α → List Char) (parts : List α) (close : UInt8)
    (hclose : isDigit close = false ∧ close ≠ point ∧ isExponentMark close = false)
    (rest : Bytes) :
    EndsNumber (encodeChars (parts.flatMap fun part => ',' :: chars part) ++ close :: rest) := by
  intro b r h
  cases parts with
  | nil =>
    obtain ⟨rfl, -⟩ := List.cons.inj h
    exact hclose
  | cons part parts =>
    obtain ⟨rfl, -⟩ := List.cons.inj h
    exact ⟨by decide, by decide, by decide⟩

theorem endsNumber_moreChars (members : List (String × Json)) (rest : Bytes) :
    EndsNumber (encodeChars (moreChars members) ++ closeBrace :: rest) := by
  simpa only [moreChars, List.cons_append] using
    endsNumber_flatMap (fun m => stringChars m.1 ++ ':' :: m.2.chars) members
      closeBrace (by decide) rest

theorem encodeChars_membersChars_cons (m : String × Json) (members : List (String × Json))
    (rest : Bytes) :
    encodeChars (membersChars (m :: members)) ++ rest =
      encodeChars (stringChars m.1) ++ colon :: (encodeChars m.2.chars ++
        (encodeChars (moreChars members) ++ rest)) := by
  have hcolon : encodeChars (':' :: m.2.chars) = colon :: encodeChars m.2.chars := rfl
  rw [membersChars_cons, encodeChars_append, encodeChars_append, hcolon]
  simp only [List.append_assoc, List.cons_append]

theorem encodeChars_moreChars_cons (m : String × Json) (members : List (String × Json))
    (rest : Bytes) :
    encodeChars (moreChars (m :: members)) ++ rest =
      comma :: (encodeChars (stringChars m.1) ++ colon :: (encodeChars m.2.chars ++
        (encodeChars (moreChars members) ++ rest))) := by
  have hcomma : encodeChars (moreChars (m :: members)) =
      comma :: encodeChars (membersChars (m :: members)) := by
    rw [membersChars_cons]
    rfl
  rw [hcomma, List.cons_append, encodeChars_membersChars_cons]

theorem readColon_cons (rest : Bytes) : readColon (colon :: rest) = .ok rest := rfl

theorem readColon_append {w : Bytes} (hw : IsBlank w) (rest : Bytes) :
    readColon (w ++ colon :: rest) = .ok rest := by
  rw [readColon, skipSpace_append hw, skipSpace_cons (by decide)]
  rfl

/-- However a name is spelled, the reader gets to what follows it. -/
theorem nextName_spells {isFirst : Bool} {lead content : Bytes} {name : String}
    (hlead : Lead isFirst lead) (hname : SpellsChars name.toList content) (rest : Bytes) :
    nextName isFirst (lead ++ (quoted content ++ rest)) = .ok (some (name, rest)) := by
  have hquote : isSpace quoteMark = false := by decide
  have hcomma : isSpace comma = false := by decide
  have hread := readString_spells hname rest
  have hquoted : quoted content ++ rest = quoteMark :: (content ++ quoteMark :: rest) := by
    rw [quoted, List.cons_append, List.append_assoc, List.singleton_append]
  rw [hquoted]
  cases hlead with
  | first hw =>
    rw [nextName, skipSpace_append hw, skipSpace_cons hquote]
    simp only
    rw [if_neg (by decide), if_pos trivial, if_pos trivial, hread]
    rfl
  | later hw hw' =>
    rw [List.append_assoc, List.cons_append, nextName, skipSpace_append hw, skipSpace_cons hcomma]
    simp only [skipSpace_append hw', skipSpace_cons hquote]
    rw [if_neg (by decide), if_neg (by decide), if_pos trivial, if_pos trivial, hread]
    rfl

/-- The members that are left, at the front of an object or after other members. -/
def leftChars : Bool → List (String × Json) → List Char
  | true, members => membersChars members
  | false, members => moreChars members

theorem leftChars_nil (isFirst : Bool) : leftChars isFirst [] = [] := by
  cases isFirst with
  | true => rfl
  | false => rfl

/-- The reader gets to the value of the next member, wherever that stands. -/
theorem nextName_leftChars (isFirst : Bool) (m : String × Json) (members : List (String × Json))
    (rest : Bytes) :
    nextName isFirst (encodeChars (leftChars isFirst (m :: members)) ++ rest) =
      .ok (some (m.1, colon :: (encodeChars m.2.chars ++
        (encodeChars (moreChars members) ++ rest)))) := by
  cases isFirst with
  | true =>
    rw [leftChars, encodeChars_membersChars_cons, encodeChars_stringChars]
    exact nextName_spells (.first isBlank_nil) (spells_escapedChars m.1.toList) _
  | false =>
    rw [leftChars, encodeChars_moreChars_cons, encodeChars_stringChars]
    exact nextName_spells (.later isBlank_nil isBlank_nil) (spells_escapedChars m.1.toList) _

theorem nextName_close (isFirst : Bool) (rest : Bytes) :
    nextName isFirst (closeBrace :: rest) = .ok none := rfl

/-! ## Values with parts -/

mutual

/-- Whether a real number is within. -/
def hasReal : Json → Bool
  | .real _ => true
  | .array items => hasRealItems items
  | .object members => hasRealMembers members
  | .null | .bool _ | .whole _ | .string _ => false

def hasRealItems : List Json → Bool
  | [] => false
  | v :: rest => hasReal v || hasRealItems rest

def hasRealMembers : List (String × Json) → Bool
  | [] => false
  | (_, v) :: rest => hasReal v || hasRealMembers rest

end

theorem hasRealItems_cons {v : Json} {items : List Json}
    (h : hasRealItems (v :: items) = false) : v.hasReal = false ∧ hasRealItems items = false := by
  rwa [hasRealItems, Bool.or_eq_false_iff] at h

theorem hasRealMembers_cons {name : String} {v : Json} {members : List (String × Json)}
    (h : hasRealMembers ((name, v) :: members) = false) :
    v.hasReal = false ∧ hasRealMembers members = false := by
  rwa [hasRealMembers, Bool.or_eq_false_iff] at h

/-- A value without real numbers starts with a byte that is neither space nor the end of a list. -/
theorem exists_cons_of_hasReal {v : Json} (hv : v.hasReal = false) :
    ∃ b r, encodeChars v.chars = b :: r ∧ isSpace b = false ∧ b ≠ closeBracket := by
  have hflat (h : v.isFlat = true) :
      ∃ b r, encodeChars v.chars = b :: r ∧ isSpace b = false ∧ b ≠ closeBracket := by
    obtain ⟨b, r, hcons, hspace, -, -, hclose⟩ := exists_cons_of_spells (spells_chars h)
    exact ⟨b, r, hcons, hspace, hclose⟩
  match v, hv with
  | .null, _ | .bool _, _ | .whole _, _ | .string _, _ => exact hflat rfl
  | .array items, _ => exact ⟨openBracket, _, rfl, by decide, by decide⟩
  | .object members, _ => exact ⟨openBrace, _, rfl, by decide, by decide⟩

/-! ## Items -/

/-- An item with the comma in front of it. -/
def moreItemsChars (items : List Json) : List Char := items.flatMap fun v => ',' :: v.chars

theorem itemsChars_cons (v : Json) (items : List Json) :
    itemsChars (v :: items) = v.chars ++ moreItemsChars items := by
  induction items generalizing v with
  | nil => simp [itemsChars, moreItemsChars]
  | cons w items ih =>
    rw [itemsChars, ih w]
    simp [moreItemsChars]

/-- The items that are left, at the front of a list or after other items. -/
def leftItemsChars : Bool → List Json → List Char
  | true, items => itemsChars items
  | false, items => moreItemsChars items

theorem leftItemsChars_nil (isFirst : Bool) : leftItemsChars isFirst [] = [] := by
  cases isFirst with
  | true => rfl
  | false => rfl

theorem endsNumber_moreItemsChars (items : List Json) (rest : Bytes) :
    EndsNumber (encodeChars (moreItemsChars items) ++ closeBracket :: rest) :=
  endsNumber_flatMap chars items closeBracket (by decide) rest

/-- The reader gets to the next item, wherever that stands. -/
theorem nextElement_leftItemsChars (isFirst : Bool) {v : Json} (hv : v.hasReal = false)
    (items : List Json) (rest : Bytes) :
    nextElement isFirst (encodeChars (leftItemsChars isFirst (v :: items)) ++ rest) =
      .ok (some (encodeChars v.chars ++ (encodeChars (moreItemsChars items) ++ rest))) := by
  obtain ⟨b, r, hcons, hspace, hclose⟩ := exists_cons_of_hasReal hv
  have hitems : encodeChars (itemsChars (v :: items)) ++ rest =
      encodeChars v.chars ++ (encodeChars (moreItemsChars items) ++ rest) := by
    rw [itemsChars_cons, encodeChars_append, List.append_assoc]
  cases isFirst with
  | true =>
    rw [leftItemsChars, hitems, hcons, List.cons_append, nextElement, skipSpace_cons hspace]
    simp only [hclose, if_false, if_true]
  | false =>
    have hcomma : encodeChars (moreItemsChars (v :: items)) =
        comma :: encodeChars (itemsChars (v :: items)) := by
      rw [itemsChars_cons]
      rfl
    rw [leftItemsChars, hcomma, List.cons_append, hitems, hcons, List.cons_append, nextElement,
      skipSpace_cons (by decide)]
    simp only [skipSpace_cons hspace, hclose, if_false]
    rfl

theorem nextElement_close (isFirst : Bool) (rest : Bytes) :
    nextElement isFirst (closeBracket :: rest) = .ok none := rfl

theorem encodeChars_array (items : List Json) (rest : Bytes) :
    encodeChars (Json.array items).chars ++ rest =
      openBracket :: (encodeChars (itemsChars items) ++ closeBracket :: rest) := by
  have hclose : encodeChars [']'] = [closeBracket] := rfl
  rw [chars, List.cons_append, encodeChars_cons, encodeChars_append, hclose,
    List.append_assoc, List.append_assoc]
  rfl

theorem encodeChars_object (members : List (String × Json)) (rest : Bytes) :
    encodeChars (Json.object members).chars ++ rest =
      openBrace :: (encodeChars (membersChars members) ++ closeBrace :: rest) := by
  have hclose : encodeChars ['\x7d'] = [closeBrace] := rfl
  rw [chars, List.cons_append, encodeChars_cons, encodeChars_append, hclose,
    List.append_assoc, List.append_assoc]
  rfl

/-! ## Steps of the reader -/

theorem readItems_nil (steps depth : Nat) (isFirst : Bool) (rest : Bytes) :
    readItems (steps + 1) depth isFirst (closeBracket :: rest) = .ok ([], rest) := by
  rw [readItems, nextElement_close, ok_bind]
  rfl

/-- The reader goes on to the value of the next item and from there to the items after it. -/
theorem readItems_cons (steps depth : Nat) (isFirst : Bool) {v : Json} (hv : v.hasReal = false)
    (items : List Json) (rest : Bytes) :
    readItems (steps + 1) depth isFirst
        (encodeChars (leftItemsChars isFirst (v :: items)) ++ rest) =
      (do
        let (item, r) ← readValue steps depth
          (encodeChars v.chars ++ (encodeChars (moreItemsChars items) ++ rest))
        let (items, r) ← readItems steps depth false r
        .ok (item :: items, r)) := by
  rw [readItems, nextElement_leftItemsChars isFirst hv items rest, ok_bind]

theorem readMembers_nil (steps depth : Nat) (isFirst : Bool) (rest : Bytes) :
    readMembers (steps + 1) depth isFirst (closeBrace :: rest) = .ok ([], rest) := by
  rw [readMembers, nextName_close, ok_bind]
  rfl

theorem readMembers_cons (steps depth : Nat) (isFirst : Bool) (name : String) (v : Json)
    (members : List (String × Json)) (rest : Bytes) :
    readMembers (steps + 1) depth isFirst
        (encodeChars (leftChars isFirst ((name, v) :: members)) ++ rest) =
      (do
        let (value, r) ← readValue steps depth
          (encodeChars v.chars ++ (encodeChars (moreChars members) ++ rest))
        let (members, r) ← readMembers steps depth false r
        .ok ((name, value) :: members, r)) := by
  rw [readMembers, nextName_leftChars isFirst (name, v) members rest, ok_bind]
  simp only [readColon_cons, ok_bind]

theorem readValue_flat {v : Json} (hv : v.isFlat = true) {steps : Nat} (depth : Nat) {rest : Bytes}
    (hsteps : 0 < steps) (hrest : EndsNumber rest) :
    readValue steps depth (encodeChars v.chars ++ rest) = .ok (v, rest) := by
  obtain ⟨steps, rfl⟩ := Nat.exists_eq_succ_of_ne_zero (Nat.ne_of_gt hsteps)
  have hread := readScalar_spells (spells_chars hv) hrest
  obtain ⟨b, r, hcons, hspace, hbracket, hbrace, -⟩ := exists_cons_of_spells (spells_chars hv)
  rw [hcons, List.cons_append] at hread ⊢
  rw [readValue, skipSpace_cons hspace]
  simp only [hbracket, hbrace, if_false]
  exact hread

/-- At a bracket the reader turns to what is inside, if it may go so deep. -/
theorem readValue_array (steps depth : Nat) (items : List Json) (rest : Bytes) :
    readValue (steps + 1) depth (encodeChars (Json.array items).chars ++ rest) =
      if depth ≤ 1 then
        .error ⟨.tooDeep, encodeChars (itemsChars items) ++ closeBracket :: rest⟩
      else (do
        let (items, r) ← readItems steps (depth - 1) true
          (encodeChars (itemsChars items) ++ closeBracket :: rest)
        .ok (.array items, r)) := by
  rw [encodeChars_array, readValue, skipSpace_cons (by decide)]
  simp only [if_true]

theorem readValue_object (steps depth : Nat) (members : List (String × Json)) (rest : Bytes) :
    readValue (steps + 1) depth (encodeChars (Json.object members).chars ++ rest) =
      if depth ≤ 1 then
        .error ⟨.tooDeep, encodeChars (membersChars members) ++ closeBrace :: rest⟩
      else (do
        let (members, r) ← readMembers steps (depth - 1) true
          (encodeChars (membersChars members) ++ closeBrace :: rest)
        .ok (.object (insertAll [] members), r)) := by
  rw [encodeChars_object, readValue, skipSpace_cons (by decide)]
  simp only [if_true]
  rw [if_neg (by decide)]

/-! ## How many steps it takes -/

theorem length_array (items : List Json) :
    (encodeChars (Json.array items).chars).length =
      (encodeChars (itemsChars items)).length + 2 := by
  have h := encodeChars_array items []
  rw [List.append_nil] at h
  rw [h]
  simp

theorem length_object (members : List (String × Json)) :
    (encodeChars (Json.object members).chars).length =
      (encodeChars (membersChars members)).length + 2 := by
  have h := encodeChars_object members []
  rw [List.append_nil] at h
  rw [h]
  simp

theorem length_pos_of_hasReal {v : Json} (hv : v.hasReal = false) :
    0 < (encodeChars v.chars).length := by
  obtain ⟨b, r, hcons, -⟩ := exists_cons_of_hasReal hv
  rw [hcons]
  exact Nat.zero_lt_succ _

/-- An item leaves bytes for the reader of those after it. -/
theorem length_leftItemsChars_cons (isFirst : Bool) {v : Json} (hv : v.hasReal = false)
    (items : List Json) :
    (encodeChars v.chars).length ≤
        (encodeChars (leftItemsChars isFirst (v :: items))).length ∧
      (encodeChars (moreItemsChars items)).length <
        (encodeChars (leftItemsChars isFirst (v :: items))).length := by
  have hpos := length_pos_of_hasReal hv
  have hitems : (encodeChars (itemsChars (v :: items))).length =
      (encodeChars v.chars).length + (encodeChars (moreItemsChars items)).length := by
    rw [itemsChars_cons, encodeChars_append, List.length_append]
  have hmore : (encodeChars (moreItemsChars (v :: items))).length =
      (encodeChars (itemsChars (v :: items))).length + 1 := by
    rw [itemsChars_cons]
    rfl
  cases isFirst with
  | true =>
    rw [leftItemsChars]
    omega
  | false =>
    rw [leftItemsChars]
    omega

theorem length_leftChars_cons (isFirst : Bool) (name : String) (v : Json)
    (members : List (String × Json)) :
    (encodeChars v.chars).length ≤
        (encodeChars (leftChars isFirst ((name, v) :: members))).length ∧
      (encodeChars (moreChars members)).length <
        (encodeChars (leftChars isFirst ((name, v) :: members))).length := by
  have hfirst := congrArg List.length (encodeChars_membersChars_cons (name, v) members [])
  have hmore := congrArg List.length (encodeChars_moreChars_cons (name, v) members [])
  simp only [List.append_nil, List.length_append, List.length_cons] at hfirst hmore
  cases isFirst with
  | true =>
    rw [leftChars]
    omega
  | false =>
    rw [leftChars]
    omega

end AccessDecision.Json
