import AccessDecision.Proofs.Text.Utf8
import AccessDecision.Url.Percent

set_option autoImplicit false

/-! # Percent encoding is done once

What is encoded holds only characters that stay as they are (`plain_encode`), so that encoding it
again changes nothing (`encode_of_plain`). -/

namespace AccessDecision.Url.Percent

variable {set : EncodeSet} {cs ds : List Char} {c : Char}

/-- ASCII characters that the encoding leaves alone. -/
def Plain (set : EncodeSet) (cs : List Char) : Prop := ∀ c ∈ cs, c.toNat < 0x80 ∧ set c = false

instance (set : EncodeSet) (cs : List Char) : Decidable (Plain set cs) :=
  decidable_of_iff ((cs.all fun c => decide (c.toNat < 0x80) && !set c) = true) (by simp [Plain])

/-- The percent sign and the digits that encoding writes are left alone, controls and spaces are
    not. -/
structure Stable (set : EncodeSet) : Prop where
  percent : set '%' = false
  digit : ∀ v < 16, set (Text.upperHexDigit v) = false
  controls : ∀ c, controls c = true → set c = true
  space : set ' ' = true

theorem stable_fragment : Stable fragment :=
  ⟨by decide, by decide, fun c h => by simp [fragment, h], by decide⟩

theorem stable_webQuery : Stable webQuery :=
  ⟨by decide, by decide, fun c h => by simp [webQuery, query, h], by decide⟩

theorem stable_path : Stable path :=
  ⟨by decide, by decide, fun c h => by simp [path, stable_fragment.controls c h], by decide⟩

theorem stable_userInfo : Stable userInfo :=
  ⟨by decide, by decide, fun c h => by simp [userInfo, stable_path.controls c h], by decide⟩

/-! ## What stays as it is -/

theorem encodeChar_of_plain (hascii : c.toNat < 0x80) (hkept : set c = false) :
    encodeChar set c = [c] := by
  rw [encodeChar, if_pos (by simp [hascii, hkept])]

theorem encode_of_plain (h : Plain set cs) : encode set cs = cs := by
  induction cs with
  | nil => rfl
  | cons c cs ih =>
    obtain ⟨hc, hcs⟩ := List.forall_mem_cons.1 h
    rw [encode, List.flatMap_cons, encodeChar_of_plain hc.1 hc.2, ← encode, ih hcs]
    rfl

theorem Plain.append (h : Plain set cs) (h' : Plain set ds) : Plain set (cs ++ ds) := by
  intro c hc
  rcases List.mem_append.1 hc with hc | hc
  · exact h c hc
  · exact h' c hc

theorem Plain.sublist (h : Plain set cs) (hsub : ds.Sublist cs) : Plain set ds :=
  fun c hc => h c (hsub.subset hc)

/-- A plain text has none of the characters of its set. -/
theorem Plain.not_mem (h : Plain set cs) (hc : set c = true) : c ∉ cs := by
  intro hmem
  exact absurd hc (by simp [(h c hmem).2])

/-- All of a plain text shows. -/
theorem Plain.shows (h : Plain set cs) (hset : Stable set) : ∀ c ∈ cs, 0x20 < c.toNat := by
  intro c hc
  have hkept := (h c hc).2
  rw [← Nat.not_le]
  intro hle
  rcases Nat.lt_or_eq_of_le hle with hlt | heq
  · exact absurd (hset.controls c (by simp [Percent.controls, hlt])) (by simp [hkept])
  · obtain rfl : c = ' ' := Char.toNat_inj.1 heq
    exact absurd hset.space (by simp [hkept])

/-! ## What is written -/

theorem upperHexDigit_ascii : ∀ v < 16, (Text.upperHexDigit v).toNat < 0x80 := by decide

theorem plain_encodeByte (hset : Stable set) (b : UInt8) : Plain set (encodeByte b) := by
  have hhigh : b.toNat / 16 < 16 := by have := b.toNat_lt; omega
  have hlow : b.toNat % 16 < 16 := Nat.mod_lt _ (by decide)
  intro c hc
  simp only [encodeByte, List.mem_cons, List.not_mem_nil, or_false] at hc
  rcases hc with rfl | rfl | rfl
  · exact ⟨by decide, hset.percent⟩
  · exact ⟨upperHexDigit_ascii _ hhigh, hset.digit _ hhigh⟩
  · exact ⟨upperHexDigit_ascii _ hlow, hset.digit _ hlow⟩

/-- A character is kept, or written as bytes. -/
theorem encodeChar_cases (set : EncodeSet) (c : Char) :
    (c.toNat < 0x80 ∧ set c = false ∧ encodeChar set c = [c]) ∨
      ((0x80 ≤ c.toNat ∨ set c = true) ∧
        encodeChar set c = (String.utf8EncodeChar c).flatMap encodeByte) := by
  by_cases hascii : c.toNat < 0x80
  · cases hset : set c with
    | false => exact Or.inl ⟨hascii, rfl, encodeChar_of_plain hascii hset⟩
    | true => exact Or.inr ⟨Or.inr rfl, by rw [encodeChar, if_neg (by simp [hset])]⟩
  · exact Or.inr ⟨Or.inl (Nat.le_of_not_lt hascii), by rw [encodeChar, if_neg (by simp [hascii])]⟩

/-- What is encoded stays as it is. -/
theorem plain_encode (hset : Stable set) (cs : List Char) : Plain set (encode set cs) := by
  intro d hd
  obtain ⟨c, -, hd⟩ := List.mem_flatMap.1 hd
  rcases encodeChar_cases set c with ⟨hascii, hkept, heq⟩ | ⟨-, heq⟩
  · rw [heq, List.mem_singleton] at hd
    exact hd ▸ ⟨hascii, hkept⟩
  · rw [heq] at hd
    obtain ⟨b, -, hd⟩ := List.mem_flatMap.1 hd
    exact plain_encodeByte hset b d hd

/-- Encoding adds percent signs and digits only. -/
theorem mem_of_mem_encode (hpercent : c ≠ '%') (hdigit : ∀ v < 16, c ≠ Text.upperHexDigit v)
    (h : c ∈ encode set cs) : c ∈ cs := by
  obtain ⟨d, hd, hc⟩ := List.mem_flatMap.1 h
  rcases encodeChar_cases set d with ⟨-, -, heq⟩ | ⟨-, heq⟩
  · rw [heq, List.mem_singleton] at hc
    exact hc ▸ hd
  · rw [heq] at hc
    obtain ⟨b, -, hc⟩ := List.mem_flatMap.1 hc
    have hhigh : b.toNat / 16 < 16 := by have := b.toNat_lt; omega
    simp only [encodeByte, List.mem_cons, List.not_mem_nil, or_false] at hc
    rcases hc with hc | hc | hc
    · exact absurd hc hpercent
    · exact absurd hc (hdigit _ hhigh)
    · exact absurd hc (hdigit _ (Nat.mod_lt _ (by decide)))

/-- A character that is not kept starts with the percent sign and the digits of its first byte. -/
theorem exists_of_escaped (h : encodeChar set c = (String.utf8EncodeChar c).flatMap encodeByte) :
    ∃ b rest, encodeChar set c = '%' :: Text.upperHexDigit (b / 16) ::
      Text.upperHexDigit (b % 16) :: rest ∧ b < 256 ∧ (b = c.toNat ∨ 0x80 ≤ b) := by
  by_cases hascii : c.toNat < 0x80
  · have hbyte : (UInt8.ofNat c.toNat).toNat = c.toNat := by
      rw [UInt8.toNat_ofNat']
      omega
    refine ⟨c.toNat, [], ?_, by omega, Or.inl rfl⟩
    rw [h, Text.Utf8.utf8EncodeChar_ascii hascii, List.flatMap_singleton, encodeByte, hbyte]
  · cases hbytes : String.utf8EncodeChar c with
    | nil => exact absurd hbytes String.utf8EncodeChar_ne_nil
    | cons b bytes =>
      refine ⟨b.toNat, bytes.flatMap encodeByte, ?_, b.toNat_lt, Or.inr ?_⟩
      · rw [h, hbytes, List.flatMap_cons, encodeByte]
        rfl
      · exact Text.Utf8.le_of_mem_utf8EncodeChar (Nat.le_of_not_lt hascii)
          (hbytes ▸ List.mem_cons_self ..)

theorem encode_cons : encode set (c :: cs) = encodeChar set c ++ encode set cs :=
  List.flatMap_cons

theorem eq_nil_of_encode (h : encode set cs = []) : cs = [] := by
  cases cs with
  | nil => rfl
  | cons c cs =>
    rw [encode_cons, List.append_eq_nil_iff] at h
    rcases encodeChar_cases set c with ⟨-, -, heq⟩ | ⟨-, heq⟩
    · exact absurd (heq.symm.trans h.1) (by simp)
    · obtain ⟨b, rest, hstart, -⟩ := exists_of_escaped heq
      exact absurd (hstart.symm.trans h.1) (by simp)

/-! ## Dots -/

/-- The ways to write a dot in a path, in lower case. -/
def dots : List (List Char) := [['.'], ['%', '2', 'e']]

/-- What starts with a character that encoding does not write was kept. -/
theorem of_map_encode_eq_cons {d : Char} (hd : d ≠ '%')
    (h : (encode set cs).map Char.toLower = d :: ds) :
    ∃ c rest, cs = c :: rest ∧ c.toLower = d ∧ (encode set rest).map Char.toLower = ds := by
  cases cs with
  | nil => exact absurd h (by simp [encode])
  | cons c rest =>
    rw [encode_cons] at h
    rcases encodeChar_cases set c with ⟨-, -, heq⟩ | ⟨-, heq⟩
    · rw [heq, List.singleton_append, List.map_cons] at h
      obtain ⟨hc, hrest⟩ := List.cons.inj h
      exact ⟨c, rest, rfl, hc, hrest⟩
    · obtain ⟨b, more, hstart, -⟩ := exists_of_escaped heq
      rw [hstart, List.cons_append, List.map_cons] at h
      exact absurd (List.cons.inj h).1.symm (by simpa using hd)

theorem high_of_toLower_eq : ∀ v < 16, (Text.upperHexDigit v).toLower = '2' → v = 2 := by decide

theorem low_of_toLower_eq : ∀ v < 16, (Text.upperHexDigit v).toLower = 'e' → v = 14 := by decide

/-- Where dots are kept, encoding makes none: what starts with a dot did so before. -/
theorem of_map_encode_eq_append {dot : List Char} (hset : set '.' = false) (hdot : dot ∈ dots)
    (h : (encode set cs).map Char.toLower = dot ++ ds) :
    ∃ rest, cs.map Char.toLower = dot ++ rest.map Char.toLower ∧
      (encode set rest).map Char.toLower = ds := by
  simp only [dots, List.mem_cons, List.not_mem_nil, or_false] at hdot
  rcases hdot with rfl | rfl
  · obtain ⟨c, rest, rfl, hc, hrest⟩ := of_map_encode_eq_cons (by decide) h
    exact ⟨rest, by simp [hc], hrest⟩
  · cases cs with
    | nil => exact absurd h (by simp [encode])
    | cons c rest =>
      rw [encode_cons] at h
      rcases encodeChar_cases set c with ⟨-, -, heq⟩ | ⟨hwhy, heq⟩
      · rw [heq, List.singleton_append, List.map_cons] at h
        obtain ⟨hc, hrest⟩ := List.cons.inj h
        obtain ⟨two, rest, rfl, htwo, hrest⟩ := of_map_encode_eq_cons (by decide) hrest
        obtain ⟨e, rest, rfl, he, hrest⟩ := of_map_encode_eq_cons (by decide) hrest
        exact ⟨rest, by simp [hc, htwo, he], hrest⟩
      · -- the escape would be that of the dot itself
        obtain ⟨b, more, hstart, hbyte, hb⟩ := exists_of_escaped heq
        rw [hstart] at h
        simp only [List.cons_append, List.map_cons, List.cons.injEq] at h
        obtain ⟨-, htwo, he, -⟩ := h
        have hhigh := high_of_toLower_eq (b / 16) (by omega) htwo
        have hlow := low_of_toLower_eq (b % 16) (by omega) he
        have hc : c.toNat = '.'.toNat := by
          rw [show '.'.toNat = 46 by decide]
          omega
        rw [Char.toNat_inj.1 hc] at hwhy
        exact absurd hwhy (by simp [hset])

/-! ## Texts without a percent sign -/

theorem decode_of_not_mem {bytes : Bytes} (h : percentSign ∉ bytes) : decode bytes = bytes := by
  induction bytes with
  | nil => rfl
  | cons b rest ih =>
    obtain ⟨hb, hrest⟩ := not_or.1 (mt List.mem_cons.2 h)
    match rest with
    | [] | [_] => rfl
    | high :: low :: rest =>
      rw [decode, decide_eq_false (Ne.symm hb)]
      exact congrArg (b :: ·) (ih hrest)

theorem percentSign_not_mem {cs : List Char} (h : '%' ∉ cs) :
    percentSign ∉ Text.Utf8.encodeChars cs := by
  intro hmem
  obtain ⟨c, hc, hb⟩ := List.mem_flatMap.1 hmem
  by_cases hascii : c.toNat < 0x80
  · rw [Text.Utf8.utf8EncodeChar_ascii hascii, List.mem_singleton] at hb
    have hpercent : c.toNat = 0x25 := by
      have hnat := congrArg UInt8.toNat hb
      rw [UInt8.toNat_ofNat'] at hnat
      simp only [percentSign, UInt8.reduceToNat] at hnat
      omega
    exact h (Char.toNat_inj.1 (hpercent.trans (by decide : 0x25 = '%'.toNat)) ▸ hc)
  · have hlarge := Text.Utf8.le_of_mem_utf8EncodeChar (Nat.le_of_not_lt hascii) hb
    exact absurd hlarge (by decide)

theorem decode_encodeChars {cs : List Char} (h : '%' ∉ cs) :
    Text.Utf8.decode (decode (Text.Utf8.encodeChars cs)) = .ok (String.ofList cs) := by
  rw [decode_of_not_mem (percentSign_not_mem h), Text.Utf8.decode_eq_ok_iff, Text.Utf8.encode,
    String.toList_ofList]

end AccessDecision.Url.Percent
