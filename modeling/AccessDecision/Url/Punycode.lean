set_option autoImplicit false

/-! # Punycode

A label with characters beyond ASCII is written in ASCII: its ASCII characters first, then where the
others go. Each of these is a number, the distance from the one before, counted over all places and
characters in rising order; it is written in digits of base 36 whose weights follow from the numbers
so far. -/

namespace AccessDecision.Url.Punycode

/-! ## Digits -/

def digitChar (d : Nat) : Char := "abcdefghijklmnopqrstuvwxyz0123456789".toList.getD d 'a'

def digitValue? (c : Char) : Option Nat :=
  if 'a' ≤ c ∧ c ≤ 'z' then some (c.toNat - 97)
  else if 'A' ≤ c ∧ c ≤ 'Z' then some (c.toNat - 65)
  else if '0' ≤ c ∧ c ≤ '9' then some (c.toNat - 22)
  else none

/-- The least value that a digit has unless it is the last one of its number. -/
def threshold (bias place : Nat) : Nat := max 1 (min 26 (36 * (place + 1) - bias))

theorem one_le_threshold (bias place : Nat) : 1 ≤ threshold bias place := Nat.le_max_left ..

theorem threshold_le (bias place : Nat) : threshold bias place ≤ 26 := by
  unfold threshold
  omega

/-- How often a number is divided by 35 to come down to 455, and what is left then. -/
def scaled (delta : Nat) : Nat × Nat :=
  if _h : 455 < delta then
    let (times, rest) := scaled (delta / 35)
    (times + 1, rest)
  else (0, delta)
termination_by delta
decreasing_by exact Nat.div_lt_self (by omega) (by omega)

/-- The bias after a number, when `count` characters are in place. -/
def adapt (isFirst : Bool) (count delta : Nat) : Nat :=
  let delta := if isFirst then delta / 700 else delta / 2
  let (times, rest) := scaled (delta + delta / count)
  36 * times + 36 * rest / (rest + 38)

/-! ## Writing -/

/-- The digits of a number from a place on. -/
def digits (bias place n : Nat) : List Char :=
  let t := threshold bias place
  if n < t then [digitChar n]
  else digitChar (t + (n - t) % (36 - t)) :: digits bias (place + 1) ((n - t) / (36 - t))
termination_by n
decreasing_by
  have h₁ := one_le_threshold bias place
  have h₂ := threshold_le bias place
  exact Nat.lt_of_le_of_lt (Nat.div_le_self _ _) (by omega)

/-- Where writing stands. -/
structure Writer where
  written : List Char
  /-- How many characters are in place. -/
  count : Nat
  delta : Nat
  bias : Nat

/-- Passes one character of the label while those equal to `c` are put in place. -/
def Writer.pass (basic : Nat) (c : Char) (w : Writer) (d : Char) : Writer :=
  if d < c then { w with delta := w.delta + 1 }
  else if d = c then
    { written := w.written ++ digits w.bias 0 w.delta
      count := w.count + 1
      delta := 0
      bias := adapt (w.count = basic) (w.count + 1) w.delta }
  else w

/-- Puts the characters of `rising` in place, all below `next` being there. -/
def Writer.run (label : List Char) (basic : Nat) (next : Nat) (w : Writer) :
    (rising : List Char) → List Char
  | [] => w.written
  | c :: rising =>
    let w := { w with delta := w.delta + (c.toNat - next) * (w.count + 1) }
    let w := label.foldl (Writer.pass basic c) w
    Writer.run label basic (c.toNat + 1) { w with delta := w.delta + 1 } rising

def isAscii (c : Char) : Bool := c.toNat < 0x80

/-- The ASCII form of a label. -/
def encode (label : List Char) : List Char :=
  let basic := label.filter isAscii
  let rising := ((label.filter fun c => !isAscii c).mergeSort fun a b => a ≤ b).eraseDups
  basic ++ (if basic.isEmpty then [] else ['-']) ++
    Writer.run label basic.length 0x80 ⟨[], basic.length, 0, 72⟩ rising

/-! ## Reading -/

/-- The number that digits from a place on write, and what follows it. -/
def number? (bias : Nat) (place weight : Nat) : List Char → Option (Nat × List Char)
  | [] => none
  | c :: rest => do
    let d ← digitValue? c
    let t := threshold bias place
    if d < t then .some (d * weight, rest)
    else
      let (n, rest) ← number? bias (place + 1) (weight * (36 - t)) rest
      .some (d * weight + n, rest)

theorem length_of_number? {bias place weight n : Nat} {cs rest : List Char}
    (h : number? bias place weight cs = some (n, rest)) : rest.length < cs.length := by
  induction cs generalizing place weight n with
  | nil => simp [number?] at h
  | cons c cs ih =>
    rw [number?] at h
    cases hd : digitValue? c with
    | none => simp [hd] at h
    | some d =>
      simp only [hd, Option.bind_eq_bind, Option.bind_some] at h
      split at h
      · simp only [Option.some.injEq, Prod.mk.injEq] at h
        simp [← h.2]
      · match hn : number? bias (place + 1) (weight * (36 - threshold bias place)) cs with
        | none => simp [hn] at h
        | some (_, after) =>
          simp only [hn, Option.bind_some, Option.some.injEq, Prod.mk.injEq] at h
          obtain ⟨_, rfl⟩ := h
          have := ih hn
          simp only [List.length_cons]
          omega

/-- Puts characters in place: `position` is where the search for the next one starts, `next` the
least that may come. -/
def place? (label : List Char) (isFirst : Bool) (bias next position : Nat) (cs : List Char) :
    Option (List Char) :=
  if cs.isEmpty then some label
  else
    match h : number? bias 0 1 cs with
    | none => none
    | some (n, rest) =>
      let count := label.length + 1
      let total := position + n
      let code := next + total / count
      if code.isValidChar then
        let label := label.insertIdx (total % count) (Char.ofNat code)
        place? label false (adapt isFirst count n) code (total % count + 1) rest
      else none
termination_by cs.length
decreasing_by exact length_of_number? h

/-- The label of an ASCII form. -/
def decode? (cs : List Char) : Option (List Char) :=
  let coded := (cs.reverse.takeWhile (· ≠ '-')).reverse
  let basic := cs.take (cs.length - coded.length - 1)
  if basic.isEmpty && coded.length < cs.length then none
  else if basic.all isAscii then place? basic true 72 0x80 0 coded
  else none

end AccessDecision.Url.Punycode
