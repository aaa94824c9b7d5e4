import AccessDecision.Json.Scan
import AccessDecision.Proofs.Json.Grammar
import AccessDecision.Proofs.Outcome
import AccessDecision.Proofs.Text.Utf8

set_option autoImplicit false

/-! # Reading a JSON string

A string is read as the text that it spells, however that is spelled (`readString_spells`). The
reader goes over bytes, so the step is the bytes that spell one character (`scanString_spells`).
After each escape the reader looks ahead to the next mark and wants UTF-8 up to there; what spells a
text always is (`checkRun_spells`). The writer has one spelling for each text
(`spells_escapedChars`). -/

namespace AccessDecision.Json

open Outcome Text.Utf8

/-! ## Bytes that stand for themselves -/

theorem isPlain_iff (b : UInt8) :
    isPlain b = true ↔ b.toNat ≠ 0x22 ∧ b.toNat ≠ 0x5C ∧ 0x20 ≤ b.toNat := by
  simp [isPlain, quoteMark, backslash, ← UInt8.toNat_inj, UInt8.le_iff_toNat_le, and_assoc]

theorem isPlainChar_iff (c : Char) :
    isPlainChar c = true ↔ c.toNat ≠ 0x22 ∧ c.toNat ≠ 0x5C ∧ 0x20 ≤ c.toNat := by
  have hquote : c = '"' ↔ c.toNat = 0x22 := ⟨fun h => by rw [h]; rfl, fun h => Char.toNat_inj.1 h⟩
  have hslash : c = '\\' ↔ c.toNat = 0x5C := ⟨fun h => by rw [h]; rfl, fun h => Char.toNat_inj.1 h⟩
  simp [isPlainChar, hquote, hslash, and_assoc]

/-- The bytes of a character are plain if the character is. -/
theorem isPlain_of_mem_utf8EncodeChar {c : Char} (hc : isPlainChar c = true) {b : UInt8}
    (hb : b ∈ String.utf8EncodeChar c) : isPlain b = true := by
  rw [isPlainChar_iff] at hc
  rw [isPlain_iff]
  by_cases h : c.toNat < 0x80
  · rw [utf8EncodeChar_ascii h, List.mem_singleton] at hb
    have hbyte : b.toNat = c.toNat := by
      rw [hb, UInt8.toNat_ofNat']
      omega
    rw [hbyte]
    exact hc
  · -- every byte of a longer form is above all three marks
    have hle := le_of_mem_utf8EncodeChar (Nat.le_of_not_lt h) hb
    omega

/-! ## Runs between marks -/

/-- The plain bytes at the front of a spelled text are those of the characters that stand for
    themselves there. -/
theorem exists_takeWhile_isPlain {cs : List Char} {content : Bytes} (h : SpellsChars cs content)
    (rest : Bytes) : ∃ ds, (content ++ quoteMark :: rest).takeWhile isPlain = encodeChars ds := by
  induction h with
  | nil => exact ⟨[], rfl⟩
  | @cons c cs s t hc _ ih =>
    obtain ⟨ds, hds⟩ := ih
    cases hc with
    | plain hplain =>
      refine ⟨c :: ds, ?_⟩
      rw [List.append_assoc,
        List.takeWhile_append_of_pos fun b hb => isPlain_of_mem_utf8EncodeChar hplain hb, hds,
        encodeChars_cons]
    -- an escape starts with a backslash
    | letter | unit | pair => exact ⟨[], rfl⟩

/-- The look ahead finds UTF-8 in a text that is followed by the closing quote. -/
theorem checkRun_spells {cs : List Char} {content : Bytes} (h : SpellsChars cs content)
    (rest : Bytes) : checkRun (content ++ quoteMark :: rest) = .ok () := by
  obtain ⟨ds, hds⟩ := exists_takeWhile_isPlain h rest
  unfold checkRun
  rw [hds, decodeFrom_encodeChars]
  split
  · rename_i h
    exact absurd h (by simp)
  · rfl

/-! ## Scanning -/

/-- Some content in front of what was scanned. -/
def prepend (content : Bytes) : Bytes × Bytes → Bytes × Bytes :=
  fun scanned => (content ++ scanned.1, scanned.2)

theorem scanString_plain {bytes : Bytes} (h : ∀ b ∈ bytes, isPlain b = true) (s : Bytes) :
    scanString .plain (bytes ++ s) = (scanString .plain s).map (prepend bytes) := by
  induction bytes with
  | nil =>
    rw [List.nil_append]
    cases scanString .plain s <;> rfl
  | cons b bytes ih =>
    have hb := h b (List.mem_cons_self ..)
    simp only [isPlain, Bool.and_eq_true, decide_eq_true_eq] at hb
    obtain ⟨⟨hquote, hslash⟩, hcontrol⟩ := hb
    rw [List.cons_append, scanString, if_neg hquote, if_neg hslash,
      if_neg (UInt8.not_lt.2 hcontrol), ih fun d hd => h d (List.mem_cons_of_mem _ hd)]
    cases scanString .plain s <;> rfl

/-- No escape of one letter is written with a `u`. -/
theorem ne_letterU_of_shortEscape? {b c : UInt8} (h : shortEscape? b = some c) : b ≠ letterU := by
  rintro rfl
  have hnone : shortEscape? letterU = none := rfl
  exact absurd (hnone.symm.trans h) (by simp)

/-- Four digits are read at once, for what their number means where they stand. -/
theorem scanString_hex (leading : Option Nat) {n : Nat} {digits : Bytes} (h : IsHex n digits)
    (s : Bytes) :
    scanString (.hex leading []) (digits ++ s) =
      match unit16 leading n with
      | .char c => do
        checkRun s
        (scanString .plain s).map (prepend (String.utf8EncodeChar c))
      | .leading high => scanString (.pair high) s
      | .lone => .error ⟨.loneSurrogate, s⟩ := by
  obtain ⟨hlength, hnumber⟩ := h
  match digits, hlength with
  | [a, b, c, d], _ =>
    simp only [List.cons_append, List.nil_append, scanString, List.length_nil, List.length_cons,
      Nat.reduceAdd, Nat.reduceLT, if_true, if_false, hnumber]
    rfl

theorem unit16_char (c : Char) : unit16 none c.toNat = .char c := by
  have hvalid := c.valid
  have hrange : ¬ (0xD800 ≤ c.toNat ∧ c.toNat ≤ 0xDFFF) := by
    rcases hvalid with h | ⟨h, -⟩ <;> simp only [Char.toNat] <;> omega
  have hlow : ¬ (0xDC00 ≤ c.toNat ∧ c.toNat ≤ 0xDFFF) := by omega
  have hhigh : ¬ (0xD800 ≤ c.toNat ∧ c.toNat ≤ 0xDBFF) := by omega
  simp [unit16, hlow, hhigh, Char.ofNat_toNat]

theorem unit16_leading {n : Nat} (hmin : 0xD800 ≤ n) (hmax : n ≤ 0xDBFF) :
    unit16 none n = .leading n := by
  have hlow : ¬ 0xDC00 ≤ n := by omega
  simp [unit16, hlow, hmin, hmax]

theorem unit16_trailing {c : Char} {high low : Nat} (hmin : 0xDC00 ≤ low) (hmax : low ≤ 0xDFFF)
    (hc : c.toNat = 0x10000 + (high - 0xD800) * 0x400 + (low - 0xDC00)) :
    unit16 (some high) low = .char c := by
  simp only [unit16, hmin, hmax, decide_true, Bool.and_self, if_true, ← hc, Char.ofNat_toNat]

/-- The bytes that spell a character are read as that character. -/
theorem scanString_spells {c : Char} {t s : Bytes} (h : SpellsChar c t)
    (hrun : checkRun s = .ok ()) :
    scanString .plain (t ++ s) =
      (scanString .plain s).map (prepend (String.utf8EncodeChar c)) := by
  cases h with
  | plain hplain => exact scanString_plain (fun b hb => isPlain_of_mem_utf8EncodeChar hplain hb) s
  | letter hescape hc =>
    rw [List.cons_append, scanString_escape, List.cons_append, List.nil_append, scanString,
      if_neg (ne_letterU_of_shortEscape? hescape), hescape, hc]
    simp only [hrun, ok_bind]
    rfl
  | unit hhex =>
    rw [List.cons_append, scanString_escape, List.cons_append, scanString_escape_hex,
      scanString_hex none hhex, unit16_char]
    simp only [hrun, ok_bind]
  | pair hfirst hsecond hmin hmax hlow hhigh hc =>
    rw [List.cons_append, scanString_escape, List.cons_append, scanString_escape_hex,
      List.append_assoc, scanString_hex none hfirst, unit16_leading hmin hmax]
    simp only [List.cons_append]
    -- behind the first of two surrogates the second one is all that may come
    rw [scanString, if_pos rfl, scanString, if_pos rfl, scanString_hex _ hsecond,
      unit16_trailing hlow hhigh hc]
    simp only [hrun, ok_bind]

/-- A spelled text up to its closing quote. -/
theorem scanString_of_spells {cs : List Char} {content : Bytes} (h : SpellsChars cs content)
    (rest : Bytes) :
    scanString .plain (content ++ quoteMark :: rest) = .ok (encodeChars cs, rest) := by
  induction h with
  | nil => rw [encodeChars_nil, List.nil_append, scanString, if_pos rfl]
  | cons hc hcs ih =>
    rw [List.append_assoc, scanString_spells hc (checkRun_spells hcs rest), ih]
    rfl

/-- A string, after its opening quote. -/
theorem readString_spells {s : String} {content : Bytes} (h : SpellsChars s.toList content)
    (rest : Bytes) : readString (content ++ quoteMark :: rest) = .ok (s, rest) := by
  have hdecode : decode (encodeChars s.toList) = .ok s := decode_encode s
  rw [readString, checkRun_spells h, ok_bind, scanString_of_spells h, ok_bind]
  simp only [hdecode]

/-! ## What is written -/

theorem hexNumber_control :
    ∀ n < 0x20, hexNumber [0x30, 0x30, UInt8.ofNat (hexDigit (n / 16)).toNat,
      UInt8.ofNat (hexDigit (n % 16)).toNat] = some n := by
  decide +kernel

theorem hexDigit_ascii : ∀ n < 16, (hexDigit n).toNat < 0x80 := by
  decide

/-- A character is written as an escape of one letter, as one of its number, or as itself. -/
theorem spells_escapedChar (c : Char) : SpellsChar c (encodeChars (escapedChar c)) := by
  unfold escapedChar
  -- the seven characters with a letter of their own
  iterate 7
    split
    · rename_i h
      subst h
      exact .letter (b := _) rfl rfl
  split
  · rename_i hcontrol
    have hhigh := hexDigit_ascii (c.toNat / 16) (by omega)
    have hlow := hexDigit_ascii (c.toNat % 16) (by omega)
    simp only [encodeChars_cons, encodeChars_nil]
    rw [utf8EncodeChar_ascii hhigh, utf8EncodeChar_ascii hlow]
    exact .unit ⟨rfl, hexNumber_control c.toNat hcontrol⟩
  · rename_i hquote hslash _ _ _ _ _ hcontrol
    have hplain : isPlainChar c = true := by
      simp only [isPlainChar, Bool.and_eq_true, decide_eq_true_eq]
      exact ⟨⟨hquote, hslash⟩, Nat.le_of_not_lt hcontrol⟩
    rw [encodeChars_cons, encodeChars_nil, List.append_nil]
    exact .plain hplain

theorem spells_escapedChars (cs : List Char) :
    SpellsChars cs (encodeChars (cs.flatMap escapedChar)) := by
  induction cs with
  | nil => exact .nil
  | cons c cs ih =>
    rw [List.flatMap_cons, encodeChars_append]
    exact .cons (spells_escapedChar c) ih

end AccessDecision.Json
