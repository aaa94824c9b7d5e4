import AccessDecision.Text.Utf8

set_option autoImplicit false

/-! # Reading back what UTF-8 writes

The strict reader takes the bytes of a character one by one. A character's first byte says how many
are owed and bounds the next one, which rules out surrogates and long forms; the bounds hold for
what `String.utf8EncodeChar` writes because a `Char` is a scalar value. One such character in front
of any bytes is the step (`decodeFrom_encodeChar`), the round trip follows by induction on the
text. The same bounds make every start that is read a character (`exists_utf8EncodeChar`), so
nothing else is read (`decode_eq_ok_iff`). -/

namespace AccessDecision.Text.Utf8

/-! ## One byte -/

theorem toNat_tail {d : Nat} (hd : d < 64) : (UInt8.ofNat (d + 0x80)).toNat = d + 0x80 := by
  rw [UInt8.toNat_ofNat']
  omega

theorem decodeFrom_lead {index : Nat} {b : UInt8} {p : Partial} {rest : Bytes}
    (h : first b = .unfinished p) :
    decodeFrom index none (b :: rest) = decodeFrom (index + 1) (some p) rest := by
  rw [decodeFrom, h]

/-- A further byte that is not the last one adds its six bits. -/
theorem decodeFrom_tail {index d : Nat} {p : Partial} {rest : Bytes} (howed : 1 < p.owed)
    (hd : d < 64) (hlow : p.low ≤ d + 0x80) (hhigh : d + 0x80 ≤ p.high) :
    decodeFrom index (some p) (UInt8.ofNat (d + 0x80) :: rest) =
      decodeFrom (index + 1) (some ⟨p.seen + 1, p.owed - 1, 0x80, 0xBF, 64 * p.bits + d⟩)
        rest := by
  have hin : ¬ (d + 0x80 < p.low ∨ p.high < d + 0x80) := by omega
  have hnext : p.next (UInt8.ofNat (d + 0x80)) =
      .unfinished ⟨p.seen + 1, p.owed - 1, 0x80, 0xBF, 64 * p.bits + d⟩ := by
    simp only [Partial.next, toNat_tail hd, Nat.add_sub_cancel]
    rw [if_neg (by simpa using hin), if_neg (by omega)]
  rw [decodeFrom, hnext]

/-- The last byte ends the character. -/
theorem decodeFrom_last {index d : Nat} {p : Partial} {rest : Bytes} (howed : p.owed ≤ 1)
    (hd : d < 64) (hlow : p.low ≤ d + 0x80) (hhigh : d + 0x80 ≤ p.high) :
    decodeFrom index (some p) (UInt8.ofNat (d + 0x80) :: rest) =
      (decodeFrom (index + 1) none rest).map (Char.ofNat (64 * p.bits + d) :: ·) := by
  have hin : ¬ (d + 0x80 < p.low ∨ p.high < d + 0x80) := by omega
  have hnext : p.next (UInt8.ofNat (d + 0x80)) = .char (Char.ofNat (64 * p.bits + d)) := by
    simp only [Partial.next, toNat_tail hd, Nat.add_sub_cancel]
    rw [if_neg (by simpa using hin), if_pos howed]
  rw [decodeFrom, hnext]

/-! ## One character -/

theorem first_two {n : Nat} (hlow : 0x80 ≤ n) (hhigh : n < 0x800) :
    first (UInt8.ofNat (n / 64 % 32 + 0xC0)) = .unfinished ⟨1, 1, 0x80, 0xBF, n / 64⟩ := by
  have hlead : (UInt8.ofNat (n / 64 % 32 + 0xC0)).toNat = n / 64 + 0xC0 := by
    rw [UInt8.toNat_ofNat']
    omega
  simp only [first, hlead]
  rw [if_neg (by omega), if_neg (by omega), if_pos (by omega)]
  simp

theorem first_three {n : Nat} (hlow : 0x800 ≤ n) (hhigh : n < 0x10000) :
    first (UInt8.ofNat (n / 4096 % 16 + 0xE0)) =
      .unfinished ⟨1, 2, if n / 4096 = 0 then 0xA0 else 0x80,
        if n / 4096 = 13 then 0x9F else 0xBF, n / 4096⟩ := by
  have hlead : (UInt8.ofNat (n / 4096 % 16 + 0xE0)).toNat = n / 4096 + 0xE0 := by
    rw [UInt8.toNat_ofNat']
    omega
  simp only [first, hlead]
  rw [if_neg (by omega), if_neg (by omega), if_neg (by omega), if_pos (by omega)]
  simp

theorem first_four {n : Nat} (hlow : 0x10000 ≤ n) (hhigh : n < 0x110000) :
    first (UInt8.ofNat (n / 262144 % 8 + 0xF0)) =
      .unfinished ⟨1, 3, if n / 262144 = 0 then 0x90 else 0x80,
        if n / 262144 = 4 then 0x8F else 0xBF, n / 262144⟩ := by
  have hlead : (UInt8.ofNat (n / 262144 % 8 + 0xF0)).toNat = n / 262144 + 0xF0 := by
    rw [UInt8.toNat_ofNat']
    omega
  simp only [first, hlead]
  rw [if_neg (by omega), if_neg (by omega), if_neg (by omega), if_neg (by omega),
    if_pos (by omega)]
  simp

/-- Reading on after the bytes of one character. -/
theorem decodeFrom_encodeChar (index : Nat) (c : Char) (rest : Bytes) :
    decodeFrom index none (String.utf8EncodeChar c ++ rest) =
      (decodeFrom (index + (String.utf8EncodeChar c).length) none rest).map (c :: ·) := by
  have hchar : Char.ofNat c.toNat = c := Char.ofNat_toNat c
  have hvalid : c.toNat < 0xD800 ∨ 0xDFFF < c.toNat ∧ c.toNat < 0x110000 := c.valid
  have hlast : 64 * (c.toNat / 64) + c.toNat % 64 = c.toNat := by omega
  have hmiddle : 64 * (c.toNat / 4096) + c.toNat / 64 % 64 = c.toNat / 64 := by omega
  have hupper : 64 * (c.toNat / 262144) + c.toNat / 4096 % 64 = c.toNat / 4096 := by omega
  unfold String.utf8EncodeChar
  simp only [show c.val.toNat = c.toNat from rfl]
  split
  · -- one byte, which is the code point
    rename_i h
    have hbyte : (UInt8.ofNat c.toNat).toNat = c.toNat := by
      rw [UInt8.toNat_ofNat']
      omega
    have hfirst : first (UInt8.ofNat c.toNat) = .char c := by
      simp only [first, hbyte]
      rw [if_pos (by omega), hchar]
    rw [List.singleton_append, decodeFrom, hfirst]
    rfl
  split
  · -- two bytes
    rename_i h₁ h
    simp only [List.cons_append, List.nil_append]
    rw [decodeFrom_lead (first_two (by omega) (by omega)),
      decodeFrom_last (Nat.le_refl _) (by omega) (by simp) (by simp only; omega)]
    simp only [hlast, hchar, List.length_cons, List.length_nil]
  split
  · -- three bytes; the second one is bounded: no long form, no surrogate
    rename_i h₁ h₂ h
    have hlow : (if c.toNat / 4096 = 0 then 0xA0 else 0x80) ≤ c.toNat / 64 % 64 + 0x80 := by
      split <;> omega
    have hhigh : c.toNat / 64 % 64 + 0x80 ≤ if c.toNat / 4096 = 13 then 0x9F else 0xBF := by
      split <;> omega
    simp only [List.cons_append, List.nil_append]
    rw [decodeFrom_lead (first_three (by omega) (by omega)),
      decodeFrom_tail (Nat.lt_succ_self 1) (by omega) hlow hhigh,
      decodeFrom_last (Nat.le_refl _) (by omega) (by simp) (by simp only; omega)]
    simp only [hmiddle, hlast, hchar, List.length_cons, List.length_nil]
  · -- four bytes; the second one is bounded: no long form, nothing above U+10FFFF
    rename_i h₁ h₂ h₃
    have hlow : (if c.toNat / 262144 = 0 then 0x90 else 0x80) ≤ c.toNat / 4096 % 64 + 0x80 := by
      split <;> omega
    have hhigh : c.toNat / 4096 % 64 + 0x80 ≤ if c.toNat / 262144 = 4 then 0x8F else 0xBF := by
      split <;> omega
    simp only [List.cons_append, List.nil_append]
    rw [decodeFrom_lead (first_four (by omega) (by omega)),
      decodeFrom_tail (by simp) (by omega) hlow hhigh,
      decodeFrom_tail (by simp) (by omega) (by simp) (by simp only; omega),
      decodeFrom_last (by simp) (by omega) (by simp) (by simp only; omega)]
    simp only [hupper, hmiddle, hlast, hchar, List.length_cons, List.length_nil]

/-! ## A text -/

theorem decodeFrom_encodeChars (index : Nat) (cs : List Char) :
    decodeFrom index none (encodeChars cs) = .ok cs := by
  induction cs generalizing index with
  | nil => rfl
  | cons c cs ih => rw [encodeChars_cons, decodeFrom_encodeChar, ih]; rfl

theorem decode_encode (s : String) : decode (encode s) = .ok s := by
  rw [decode, encode, decodeFrom_encodeChars]
  exact congrArg Except.ok String.ofList_toList

theorem encodeChars_injective {cs ds : List Char} (h : encodeChars cs = encodeChars ds) :
    cs = ds := by
  have hcs := decodeFrom_encodeChars 0 cs
  rw [h, decodeFrom_encodeChars] at hcs
  exact (Except.ok.inj hcs).symm

/-! ## The bytes of a character -/

/-- A character below U+0080 is one byte. -/
theorem utf8EncodeChar_ascii {c : Char} (h : c.toNat < 0x80) :
    String.utf8EncodeChar c = [UInt8.ofNat c.toNat] := by
  unfold String.utf8EncodeChar
  simp only [show c.val.toNat = c.toNat from rfl]
  rw [if_pos (by omega)]

theorem encodeChars_of_ascii {cs : List Char} (h : ∀ c ∈ cs, c.toNat < 0x80) :
    encodeChars cs = cs.map fun c => UInt8.ofNat c.toNat := by
  induction cs with
  | nil => rfl
  | cons c cs ih =>
    rw [encodeChars_cons, utf8EncodeChar_ascii (h c List.mem_cons_self), List.map_cons,
      ih fun d hd => h d (List.mem_cons_of_mem _ hd)]
    rfl

/-- The bytes of any other character are all from `0x80` on. -/
theorem le_of_mem_utf8EncodeChar {c : Char} (h : 0x80 ≤ c.toNat) {b : UInt8}
    (hb : b ∈ String.utf8EncodeChar c) : 0x80 ≤ b.toNat := by
  unfold String.utf8EncodeChar at hb
  simp only [show c.val.toNat = c.toNat from rfl] at hb
  rw [if_neg (by omega)] at hb
  split at hb
  · simp only [List.mem_cons, List.not_mem_nil, or_false] at hb
    rcases hb with rfl | rfl <;> rw [UInt8.toNat_ofNat'] <;> omega
  split at hb
  · simp only [List.mem_cons, List.not_mem_nil, or_false] at hb
    rcases hb with rfl | rfl | rfl <;> rw [UInt8.toNat_ofNat'] <;> omega
  · simp only [List.mem_cons, List.not_mem_nil, or_false] at hb
    rcases hb with rfl | rfl | rfl | rfl <;> rw [UInt8.toNat_ofNat'] <;> omega

/-! ## Only what is written is read -/

theorem exists_char_toNat {n : Nat} (h : n.isValidChar) : ∃ c : Char, c.toNat = n :=
  ⟨Char.ofNatAux n h, rfl⟩

theorem byte_eq {b : UInt8} {n : Nat} (h : b.toNat = n) : b = UInt8.ofNat n := by
  rw [← h, UInt8.ofNat_toNat]

/-- A byte that goes on with a character is within its bounds. -/
theorem exists_tail {index : Nat} {p : Partial} {bytes : Bytes} {cs : List Char}
    (hlow : 0x80 ≤ p.low) (hhigh : p.high ≤ 0xBF)
    (h : decodeFrom index (some p) bytes = .ok cs) :
    ∃ d rest, d < 64 ∧ bytes = UInt8.ofNat (d + 0x80) :: rest ∧ p.low ≤ d + 0x80 ∧
      d + 0x80 ≤ p.high ∧ (1 < p.owed → decodeFrom (index + 1)
        (some ⟨p.seen + 1, p.owed - 1, 0x80, 0xBF, 64 * p.bits + d⟩) rest = .ok cs) := by
  cases bytes with
  | nil => exact absurd h (by simp [decodeFrom])
  | cons b rest =>
    by_cases hin : b.toNat < p.low ∨ p.high < b.toNat
    · have hnext : p.next b = .invalid := by
        rw [Partial.next]
        exact if_pos (by simpa using hin)
      rw [decodeFrom, hnext] at h
      exact absurd h (by simp)
    · obtain ⟨d, hd⟩ : ∃ d, b.toNat = d + 0x80 := ⟨b.toNat - 0x80, by omega⟩
      obtain rfl := byte_eq hd
      refine ⟨d, rest, by omega, rfl, by omega, by omega, ?_⟩
      intro howed
      rw [decodeFrom_tail howed (by omega) (by omega) (by omega)] at h
      exact h

theorem utf8EncodeChar_two {c : Char} {a d : Nat} (hc : c.toNat = 64 * a + d) (ha : 2 ≤ a)
    (ha' : a < 32) (hd : d < 64) :
    String.utf8EncodeChar c = [UInt8.ofNat (a + 0xC0), UInt8.ofNat (d + 0x80)] := by
  unfold String.utf8EncodeChar
  simp only [show c.val.toNat = 64 * a + d from hc]
  rw [if_neg (by omega), if_pos (by omega), show (64 * a + d) / 64 % 32 = a by omega,
    show (64 * a + d) % 64 = d by omega]

theorem utf8EncodeChar_three {c : Char} {a d e : Nat} (hc : c.toNat = 64 * (64 * a + d) + e)
    (ha : a < 16) (hd : d < 64) (he : e < 64) (hlong : 0x20 ≤ 64 * a + d) :
    String.utf8EncodeChar c =
      [UInt8.ofNat (a + 0xE0), UInt8.ofNat (d + 0x80), UInt8.ofNat (e + 0x80)] := by
  unfold String.utf8EncodeChar
  simp only [show c.val.toNat = 64 * (64 * a + d) + e from hc]
  rw [if_neg (by omega), if_neg (by omega), if_pos (by omega),
    show (64 * (64 * a + d) + e) / 4096 % 16 = a by omega,
    show (64 * (64 * a + d) + e) / 64 % 64 = d by omega,
    show (64 * (64 * a + d) + e) % 64 = e by omega]

theorem utf8EncodeChar_four {c : Char} {a d e f : Nat}
    (hc : c.toNat = 64 * (64 * (64 * a + d) + e) + f) (ha : a < 8) (hd : d < 64) (he : e < 64)
    (hf : f < 64) (hlong : 0x10 ≤ 64 * a + d) :
    String.utf8EncodeChar c = [UInt8.ofNat (a + 0xF0), UInt8.ofNat (d + 0x80),
      UInt8.ofNat (e + 0x80), UInt8.ofNat (f + 0x80)] := by
  unfold String.utf8EncodeChar
  simp only [show c.val.toNat = 64 * (64 * (64 * a + d) + e) + f from hc]
  rw [if_neg (by omega), if_neg (by omega), if_neg (by omega),
    show (64 * (64 * (64 * a + d) + e) + f) / 262144 % 8 = a by omega,
    show (64 * (64 * (64 * a + d) + e) + f) / 4096 % 64 = d by omega,
    show (64 * (64 * (64 * a + d) + e) + f) / 64 % 64 = e by omega,
    show (64 * (64 * (64 * a + d) + e) + f) % 64 = f by omega]

section Lead

variable {index a : Nat} {b : UInt8} {bytes : Bytes} {cs : List Char}

theorem exists_two (ha : b.toNat = a + 0xC0) (hlow : 2 ≤ a) (hhigh : a < 32)
    (h : decodeFrom index none (b :: bytes) = .ok cs) :
    ∃ c rest, b :: bytes = String.utf8EncodeChar c ++ rest := by
  have hfirst : first b = .unfinished ⟨1, 1, 0x80, 0xBF, a⟩ := by
    simp only [first, ha, Nat.add_sub_cancel]
    rw [if_neg (by omega), if_neg (by omega), if_pos (by omega)]
  rw [decodeFrom_lead hfirst] at h
  obtain ⟨d, rest, hd, rfl, -⟩ := exists_tail (Nat.le_refl _) (Nat.le_refl _) h
  obtain ⟨c, hc⟩ := exists_char_toNat (n := 64 * a + d) (by omega)
  refine ⟨c, rest, ?_⟩
  rw [utf8EncodeChar_two hc hlow hhigh hd, byte_eq ha]
  rfl

theorem exists_three (ha : b.toNat = a + 0xE0) (hhigh : a < 16)
    (h : decodeFrom index none (b :: bytes) = .ok cs) :
    ∃ c rest, b :: bytes = String.utf8EncodeChar c ++ rest := by
  have hfirst : first b = .unfinished ⟨1, 2, if a = 0 then 0xA0 else 0x80,
      if a = 13 then 0x9F else 0xBF, a⟩ := by
    simp only [first, ha, Nat.add_sub_cancel]
    rw [if_neg (by omega), if_neg (by omega), if_neg (by omega), if_pos (by omega)]
    simp
  rw [decodeFrom_lead hfirst] at h
  obtain ⟨d, rest, hd, rfl, hleast, hmost, hmore⟩ :=
    exists_tail (by dsimp only; split <;> omega) (by dsimp only; split <;> omega) h
  obtain ⟨e, rest, he, rfl, -⟩ :=
    exists_tail (Nat.le_refl _) (Nat.le_refl _) (hmore (Nat.lt_succ_self 1))
  -- the bounds of the second byte keep surrogates and long forms out
  dsimp only at hleast hmost
  have hvalid : (64 * (64 * a + d) + e).isValidChar := by
    split at hmost <;> omega
  obtain ⟨c, hc⟩ := exists_char_toNat hvalid
  refine ⟨c, rest, ?_⟩
  rw [utf8EncodeChar_three hc hhigh hd he (by split at hleast <;> omega), byte_eq ha]
  rfl

theorem exists_four (ha : b.toNat = a + 0xF0) (hhigh : a < 5)
    (h : decodeFrom index none (b :: bytes) = .ok cs) :
    ∃ c rest, b :: bytes = String.utf8EncodeChar c ++ rest := by
  have hfirst : first b = .unfinished ⟨1, 3, if a = 0 then 0x90 else 0x80,
      if a = 4 then 0x8F else 0xBF, a⟩ := by
    simp only [first, ha, Nat.add_sub_cancel]
    rw [if_neg (by omega), if_neg (by omega), if_neg (by omega), if_neg (by omega),
      if_pos (by omega)]
    simp
  rw [decodeFrom_lead hfirst] at h
  obtain ⟨d, rest, hd, rfl, hleast, hmost, hmore⟩ :=
    exists_tail (by dsimp only; split <;> omega) (by dsimp only; split <;> omega) h
  obtain ⟨e, rest, he, rfl, -, -, hmore⟩ :=
    exists_tail (Nat.le_refl _) (Nat.le_refl _) (hmore (by simp))
  obtain ⟨f, rest, hf, rfl, -⟩ :=
    exists_tail (Nat.le_refl _) (Nat.le_refl _) (hmore (by simp))
  -- the bounds of the second byte keep long forms and numbers above U+10FFFF out
  dsimp only at hleast hmost
  have hvalid : (64 * (64 * (64 * a + d) + e) + f).isValidChar := by
    split at hmost <;> split at hleast <;> omega
  obtain ⟨c, hc⟩ := exists_char_toNat hvalid
  refine ⟨c, rest, ?_⟩
  rw [utf8EncodeChar_four hc (by omega) hd he hf (by split at hleast <;> omega), byte_eq ha]
  rfl

/-- Bytes that are read start with a character. -/
theorem exists_utf8EncodeChar (h : decodeFrom index none (b :: bytes) = .ok cs) :
    ∃ c rest, b :: bytes = String.utf8EncodeChar c ++ rest := by
  by_cases hone : b.toNat < 0x80
  · obtain ⟨c, hc⟩ := exists_char_toNat (n := b.toNat) (by omega)
    refine ⟨c, bytes, ?_⟩
    rw [utf8EncodeChar_ascii (by omega), hc, UInt8.ofNat_toNat, List.singleton_append]
  by_cases htwo : 0xC2 ≤ b.toNat ∧ b.toNat < 0xE0
  · obtain ⟨a, ha⟩ : ∃ a, b.toNat = a + 0xC0 := ⟨b.toNat - 0xC0, by omega⟩
    exact exists_two ha (by omega) (by omega) h
  by_cases hthree : 0xE0 ≤ b.toNat ∧ b.toNat < 0xF0
  · obtain ⟨a, ha⟩ : ∃ a, b.toNat = a + 0xE0 := ⟨b.toNat - 0xE0, by omega⟩
    exact exists_three ha (by omega) h
  by_cases hfour : 0xF0 ≤ b.toNat ∧ b.toNat < 0xF5
  · obtain ⟨a, ha⟩ : ∃ a, b.toNat = a + 0xF0 := ⟨b.toNat - 0xF0, by omega⟩
    exact exists_four ha (by omega) h
  · -- no character starts with any other byte
    have hfirst : first b = .invalid := by
      simp only [first]
      rw [if_neg hone]
      by_cases hbelow : b.toNat < 0xC2
      · rw [if_pos hbelow]
      · rw [if_neg hbelow, if_neg (by omega), if_neg (by omega), if_neg (by omega)]
    rw [decodeFrom, hfirst] at h
    exact absurd h (by simp)

end Lead

theorem eq_encodeChars_of_decodeFrom {index : Nat} {bytes : Bytes} {cs : List Char}
    (h : decodeFrom index none bytes = .ok cs) : bytes = encodeChars cs := by
  induction cs generalizing index bytes with
  | nil =>
    cases bytes with
    | nil => rfl
    | cons b bytes =>
      obtain ⟨c, rest, hc⟩ := exists_utf8EncodeChar h
      rw [hc, decodeFrom_encodeChar] at h
      cases hrest : decodeFrom (index + (String.utf8EncodeChar c).length) none rest with
      | error fault => exact absurd (hrest ▸ h) (by simp [Except.map])
      | ok cs => exact absurd (hrest ▸ h) (by simp [Except.map])
  | cons d cs ih =>
    cases bytes with
    | nil => exact absurd h (by simp [decodeFrom])
    | cons b bytes =>
      obtain ⟨c, rest, hc⟩ := exists_utf8EncodeChar h
      rw [hc, decodeFrom_encodeChar] at h
      cases hrest : decodeFrom (index + (String.utf8EncodeChar c).length) none rest with
      | error fault => exact absurd (hrest ▸ h) (by simp [Except.map])
      | ok rest' =>
        rw [hrest] at h
        obtain ⟨rfl, rfl⟩ := List.cons.inj (Except.ok.inj h)
        rw [hc, ih hrest, encodeChars_cons]

theorem decode_eq_ok_iff {bytes : Bytes} {s : String} : decode bytes = .ok s ↔ bytes = encode s := by
  constructor
  · intro h
    unfold decode at h
    cases hchars : decodeFrom 0 none bytes with
    | error fault => exact absurd (hchars ▸ h) (by simp [Except.map])
    | ok cs =>
      rw [hchars] at h
      obtain rfl : String.ofList cs = s := Except.ok.inj h
      rw [encode, String.toList_ofList]
      exact eq_encodeChars_of_decodeFrom hchars
  · rintro rfl
    exact decode_encode s

end AccessDecision.Text.Utf8
