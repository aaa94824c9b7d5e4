set_option autoImplicit false

/-! # White space and trimming

White space is the property `White_Space` of the Unicode character database. A text is blank when it
holds nothing else; `trim` takes white space off both ends and leaves the inside alone. -/

namespace AccessDecision.Text

/-- The twenty-five characters with the property `White_Space`. -/
def isWhite (c : Char) : Bool :=
  let n := c.toNat
  (0x09 ≤ n && n ≤ 0x0D) || n == 0x20 || n == 0x85 || n == 0xA0 || n == 0x1680 ||
    (0x2000 ≤ n && n ≤ 0x200A) || n == 0x2028 || n == 0x2029 || n == 0x202F || n == 0x205F ||
    n == 0x3000

/-- Nothing but white space, or nothing at all. -/
def isBlank (s : String) : Bool :=
  s.toList.all isWhite

/-- The characters without the white space at both ends. -/
def trimChars (cs : List Char) : List Char :=
  ((cs.dropWhile isWhite).reverse.dropWhile isWhite).reverse

/-- The text without the white space at both ends. -/
def trim (s : String) : String :=
  String.ofList (trimChars s.toList)

theorem dropWhile_isWhite_eq_nil_iff (cs : List Char) :
    cs.dropWhile isWhite = [] ↔ cs.all isWhite = true := by
  induction cs with
  | nil => simp
  | cons c cs ih => by_cases h : isWhite c = true <;> simp [h, ih]

/-- The first character that `dropWhile` leaves is not white. -/
theorem head_dropWhile_isWhite {cs rest : List Char} {c : Char}
    (h : cs.dropWhile isWhite = c :: rest) : isWhite c = false := by
  induction cs with
  | nil => simp at h
  | cons d cs ih =>
    by_cases hd : isWhite d = true
    · exact ih (by simpa [List.dropWhile_cons, hd] using h)
    · simp only [List.dropWhile_cons, hd] at h
      simp_all

theorem trimChars_eq_nil_iff (cs : List Char) : trimChars cs = [] ↔ cs.all isWhite = true := by
  rw [trimChars, List.reverse_eq_nil_iff, dropWhile_isWhite_eq_nil_iff, List.all_reverse]
  cases h : cs.dropWhile isWhite with
  | nil => simp [(dropWhile_isWhite_eq_nil_iff cs).1 h]
  | cons c rest =>
    have hc := head_dropWhile_isWhite h
    have hcs : ¬ cs.all isWhite = true := by
      rw [← dropWhile_isWhite_eq_nil_iff, h]
      simp
    simp [hc, hcs]

/-- A text is blank exactly when trimming leaves nothing. -/
theorem trim_eq_empty_iff (s : String) : trim s = "" ↔ isBlank s = true := by
  rw [trim, isBlank, ← trimChars_eq_nil_iff]
  constructor
  · intro h
    simpa using congrArg String.toList h
  · intro h
    rw [h]

end AccessDecision.Text
