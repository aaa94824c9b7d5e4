set_option autoImplicit false

/-! # Cutting a text at separators -/

namespace AccessDecision.Text

/-- The pieces between separators: one more than there are separators, any of them possibly empty.
-/
def pieces (isSeparator : Char → Bool) : List Char → List (List Char)
  | [] => [[]]
  | c :: cs =>
    if isSeparator c then [] :: pieces isSeparator cs
    else match pieces isSeparator cs with
      | [] => [[c]]
      | p :: ps => (c :: p) :: ps

theorem pieces_ne_nil (isSeparator : Char → Bool) (cs : List Char) :
    pieces isSeparator cs ≠ [] := by
  cases cs with
  | nil => simp [pieces]
  | cons c cs =>
    rw [pieces]
    split
    · simp
    · split <;> simp

/-- What stands before the first separator, and what stands after it if there is one. -/
def breakAt (isSeparator : Char → Bool) : List Char → List Char × Option (List Char)
  | [] => ([], none)
  | c :: cs =>
    if isSeparator c then ([], some cs)
    else
      let (before, after) := breakAt isSeparator cs
      (c :: before, after)

end AccessDecision.Text
