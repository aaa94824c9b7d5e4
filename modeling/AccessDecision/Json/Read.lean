import AccessDecision.Json.Scan

set_option autoImplicit false

/-! # Reading JSON values

`read` accepts exactly one value with space around it. Brackets may nest `depthLimit - 1` deep. The
members of an object are kept in rising order of their names, and of several members of one name the
last one counts. -/

namespace AccessDecision.Json

/-- The bracket with which a text is too deep, counted from the outermost. -/
def depthLimit : Nat := 128

mutual

/-- A value and what follows it. `depth` is how many brackets may open before it is too deep, and
`steps` bounds the work: no more than two are needed for each byte. -/
def readValue : (steps depth : Nat) → Bytes → Except Fault (Json × Bytes)
  | 0, _, _ => .error ⟨.endInValue, []⟩
  | steps + 1, depth, s =>
    match skipSpace s with
    | [] => .error ⟨.endInValue, []⟩
    | b :: r =>
      if b = openBracket then
        if depth ≤ 1 then .error ⟨.tooDeep, r⟩
        else do
          let (items, rest) ← readItems steps (depth - 1) true r
          .ok (.array items, rest)
      else if b = openBrace then
        if depth ≤ 1 then .error ⟨.tooDeep, r⟩
        else do
          let (members, rest) ← readMembers steps (depth - 1) true r
          .ok (.object (insertAll [] members), rest)
      else readScalar (b :: r)

/-- The elements of a list up to and with its closing bracket. -/
def readItems : (steps depth : Nat) → (isFirst : Bool) → Bytes → Except Fault (List Json × Bytes)
  | 0, _, _, _ => .error ⟨.endInList, []⟩
  | steps + 1, depth, isFirst, s => do
    match ← nextElement isFirst s with
    | none => .ok ([], ← closeList s)
    | some r =>
      let (item, r) ← readValue steps depth r
      let (items, r) ← readItems steps depth false r
      .ok (item :: items, r)

/-- The members of an object, as they stand, up to and with its closing brace. -/
def readMembers :
    (steps depth : Nat) → (isFirst : Bool) → Bytes → Except Fault (List (String × Json) × Bytes)
  | 0, _, _, _ => .error ⟨.endInObject, []⟩
  | steps + 1, depth, isFirst, s => do
    match ← nextName isFirst s with
    | none => .ok ([], ← closeObject s)
    | some (name, r) =>
      let (value, r) ← readValue steps depth (← readColon r)
      let (members, r) ← readMembers steps depth false r
      .ok ((name, value) :: members, r)

end

/-- A whole text, read by a reader that must leave nothing but space. -/
def readAll {α : Type} (reader : Bytes → Except Fault (α × Bytes)) (input : Bytes) :
    Except Error α :=
  let outcome : Except Fault α := do
    let (value, rest) ← reader input
    readEnd rest
    .ok value
  outcome.mapError (Fault.toError input)

/-- The value that a text writes. -/
def read (input : Bytes) : Except Error Json :=
  readAll (readValue (2 * input.length + 2) depthLimit) input

end AccessDecision.Json
