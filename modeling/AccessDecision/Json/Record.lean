import AccessDecision.Json.Read
import AccessDecision.Json.Skip

set_option autoImplicit false

/-! # Reading records

A `Layout` lists the fields of a record: their names, the other names they go by, what kind of value
they hold and whether they must be there. A record is read off an object, whose other members are
ignored, or off an array that holds the fields in the order of the layout. The result is an
`Assignment` of values to names, from which the record itself is built: `Assignment.string` and its
like take a field out again and report one that is missing.

`Layout.ofJson` reads a value and `Layout.read` a text. They differ in what they see first: a value
has its members in rising order, a text in the order in which they were written. -/

namespace AccessDecision.Json

/-! ## Kinds of values -/

/-- What a field may hold. -/
inductive Kind where
  | boolean
  | string
  /-- A string or `null`. -/
  | optionalString
  | int64
  | anything
  deriving DecidableEq, Repr

/-- A truth value. -/
def asBool (v : Json) : Except Cause Bool :=
  match v with
  | .bool b => .ok b
  | v => .error (.wrongType v.shape .boolean)

def asString (v : Json) : Except Cause String :=
  match v with
  | .string s => .ok s
  | v => .error (.wrongType v.shape .string)

def asOptionalString (v : Json) : Except Cause (Option String) :=
  match v with
  | .null => .ok none
  | v => (asString v).map some

/-- A whole number must also fit 64 bits with sign. -/
def asInt64 (v : Json) : Except Cause Int64 :=
  match v with
  | .whole n =>
    match n.toInt64? with
    | some i => .ok i
    | none => .error (.wrongValue (.whole n) .int64)
  | v => .error (.wrongType v.shape .int64)

/-- Whether a value is of a kind. -/
def Kind.check (kind : Kind) (v : Json) : Except Cause Unit :=
  match kind with
  | .boolean => (asBool v).map fun _ => ()
  | .string => (asString v).map fun _ => ()
  | .optionalString => (asOptionalString v).map fun _ => ()
  | .int64 => (asInt64 v).map fun _ => ()
  | .anything => .ok ()

/-- What a text that starts with a bracket violates. -/
def Kind.expectation : Kind → Option Expectation
  | .boolean => some .boolean
  | .string => some .string
  | .optionalString => some .string
  | .int64 => some .int64
  | .anything => none

/-! ## Layouts -/

structure Field where
  name : String
  /-- Other names of the field. -/
  aliases : List String := []
  kind : Kind
  required : Bool := true
  deriving DecidableEq, Repr

structure Layout where
  title : String
  fields : List Field
  deriving DecidableEq, Repr

/-- Whether a field goes by a name. -/
def Field.goesBy (f : Field) (name : String) : Bool := f.name = name || f.aliases.contains name

/-- The field that goes by a name. -/
def Layout.field? (l : Layout) (name : String) : Option Field :=
  l.fields.find? (·.goesBy name)

/-- Values of fields, by the field's own name. -/
abbrev Assignment := List (String × Json)

namespace Assignment

def value? (a : Assignment) (name : String) : Option Json := lookup name a

def required (a : Assignment) (name : String) : Except Cause Json :=
  match a.value? name with
  | some v => .ok v
  | none => .error (.missingField name)

def boolean (a : Assignment) (name : String) : Except Cause Bool := do asBool (← a.required name)

def string (a : Assignment) (name : String) : Except Cause String := do asString (← a.required name)

def int64 (a : Assignment) (name : String) : Except Cause Int64 := do asInt64 (← a.required name)

/-- A field that may be missing, which is like `null`. -/
def optionalString (a : Assignment) (name : String) : Except Cause (Option String) :=
  asOptionalString ((a.value? name).getD .null)

/-- A field of any kind that may be missing, which is like `null`. -/
def anything (a : Assignment) (name : String) : Json := (a.value? name).getD .null

end Assignment

/-! ## From a value -/

/-- The fields of an object's members, after those assigned before. -/
def Layout.assign (l : Layout) : Assignment → List (String × Json) → Except Cause Assignment
  | a, [] => .ok a
  | a, (name, v) :: rest =>
    match l.field? name with
    | none => l.assign a rest
    | some f =>
      if (a.value? f.name).isSome then .error (.duplicateField f.name)
      else do
        f.kind.check v
        l.assign ((f.name, v) :: a) rest

/-- The fields in the order of the layout, from the one at `index` on, with the elements of an
array. Elements that are left over are returned. -/
def Layout.zipFields (l : Layout) :
    (index : Nat) → List Field → List Json → Except Cause (Assignment × List Json)
  | _, [], rest => .ok ([], rest)
  | index, f :: fs, [] =>
    if f.required then .error (.tooShort index l.title l.fields.length)
    else l.zipFields (index + 1) fs []
  | index, f :: fs, v :: rest => do
    f.kind.check v
    let (a, rest) ← l.zipFields (index + 1) fs rest
    .ok ((f.name, v) :: a, rest)

/-- The fields that a value gives. -/
def Layout.assignment (l : Layout) (v : Json) : Except Cause Assignment :=
  match v with
  | .array items => do
    let (a, rest) ← l.zipFields 0 l.fields items
    if rest.isEmpty then .ok a else .error (.tooLong items.length)
  | .object members => l.assign [] members
  | v => .error (.wrongType v.shape (.record l.title))

/-- A record read off a value. -/
def Layout.ofJson {α : Type} (l : Layout) (build : Assignment → Except Cause α) (v : Json) :
    Except Cause α := do
  build (← l.assignment v)

/-! ## From a text -/

/-- A value of a kind and what follows it. Where only a value without parts will do, a bracket is
refused before it is read, and anything else after it has been read. -/
def readKind (kind : Kind) (depth : Nat) (s : Bytes) : Except Fault (Json × Bytes) :=
  match kind.expectation with
  | none => readValue (2 * s.length + 2) depth s
  | some expected =>
    match skipSpace s with
    | [] => .error ⟨.endInValue, []⟩
    | b :: r =>
      if b = openBracket then .error ⟨.wrongType .sequence expected, b :: r⟩
      else if b = openBrace then .error ⟨.wrongType .map expected, b :: r⟩
      else do
        let (v, rest) ← readScalar (b :: r)
        match kind.check v with
        | .ok () => .ok (v, rest)
        | .error cause => .error ⟨cause, rest⟩

/-- The place of a fault that concerns a list as a whole: behind its closing bracket, if that is
next. -/
def afterList (s : Bytes) : Bytes :=
  match skipSpace s with
  | [] => []
  | b :: r => if b = closeBracket then r else if b = comma then skipSpace r else b :: r

/-- The place of a fault that concerns an object as a whole: behind its closing brace, if that is
next. -/
def afterObject (s : Bytes) : Bytes :=
  match skipSpace s with
  | [] => []
  | b :: r => if b = closeBrace then r else b :: r

/-- The fields in the order of the layout, from the one at `index` on, with the elements of a list
up to its closing bracket. -/
def Layout.readElements (l : Layout) (depth : Nat) :
    (index : Nat) → (isFirst : Bool) → List Field → Bytes → Except Fault (Assignment × Bytes)
  | _, _, [], s => .ok ([], s)
  | index, isFirst, f :: fs, s => do
    match ← nextElement isFirst s with
    | none =>
      if f.required then .error ⟨.tooShort index l.title l.fields.length, afterList s⟩
      else l.readElements depth (index + 1) isFirst fs s
    | some r =>
      let (v, r) ← readKind f.kind depth r
      let (a, r) ← l.readElements depth (index + 1) false fs r
      .ok ((f.name, v) :: a, r)

/-- The fields of an object up to its closing brace, after those assigned before. Each step reads a
member. -/
def Layout.readFields (l : Layout) (depth : Nat) :
    (steps : Nat) → (isFirst : Bool) → Assignment → Bytes → Except Fault (Assignment × Bytes)
  | 0, _, _, _ => .error ⟨.endInObject, []⟩
  | steps + 1, isFirst, a, s => do
    match ← nextName isFirst s with
    | none => .ok (a, s)
    | some (name, r) =>
      match l.field? name with
      | none => l.readFields depth steps false a (← skipValue (← readColon r))
      | some f =>
        if (a.value? f.name).isSome then .error ⟨.duplicateField f.name, afterObject r⟩
        else
          let (v, r) ← readKind f.kind depth (← readColon r)
          l.readFields depth steps false ((f.name, v) :: a) r

/-- A record and what follows it. -/
def Layout.readRecord {α : Type} (l : Layout) (build : Assignment → Except Cause α) (s : Bytes) :
    Except Fault (α × Bytes) :=
  match skipSpace s with
  | [] => .error ⟨.endInValue, []⟩
  | b :: r =>
    if b = openBracket then do
      let (a, r) ← l.readElements (depthLimit - 1) 0 true l.fields r
      match build a with
      | .ok record => .ok (record, ← closeList r)
      | .error cause => .error ⟨cause, afterList r⟩
    else if b = openBrace then do
      let (a, r) ← l.readFields (depthLimit - 1) (r.length + 1) true [] r
      match build a with
      | .ok record => .ok (record, ← closeObject r)
      | .error cause => .error ⟨cause, afterObject r⟩
    else do
      let (v, rest) ← readScalar (b :: r)
      .error ⟨.wrongType v.shape (.record l.title), rest⟩

/-- A record read off a text. -/
def Layout.read {α : Type} (l : Layout) (build : Assignment → Except Cause α) (input : Bytes) :
    Except Error α :=
  readAll (l.readRecord build) input

/-! ## Names of variants -/

/-- One of several names, as a string, and what follows it. -/
def readName (variants : List String) (s : Bytes) : Except Fault (String × Bytes) :=
  match skipSpace s with
  | [] => .error ⟨.endInValue, []⟩
  | b :: r =>
    if b = openBracket then .error ⟨.wrongType .sequence .variantName, b :: r⟩
    else if b = openBrace then .error ⟨.wrongType .map .variantName, b :: r⟩
    else do
      let (v, rest) ← readScalar (b :: r)
      match v with
      | .string name =>
        if variants.contains name then .ok (name, rest)
        else .error ⟨.unknownVariant name variants, rest⟩
      | v => .error ⟨.wrongType v.shape .variantName, rest⟩

/-- The value `null` and what follows it. -/
def readNull (s : Bytes) : Except Fault Bytes :=
  match skipSpace s with
  | [] => .error ⟨.endInValue, []⟩
  | b :: r =>
    if b = openBracket then .error ⟨.wrongType .sequence .unit, b :: r⟩
    else if b = openBrace then .error ⟨.wrongType .map .unit, b :: r⟩
    else do
      let (v, rest) ← readScalar (b :: r)
      match v with
      | .null => .ok rest
      | v => .error ⟨.wrongType v.shape .unit, rest⟩

/-- A variant, written as its name or as an object whose only member has that name and the value
`null`. -/
def readVariant (variants : List String) (s : Bytes) : Except Fault (String × Bytes) :=
  match skipSpace s with
  | [] => .error ⟨.endInValue, []⟩
  | b :: r =>
    if b = openBrace then do
      let (name, r) ← readName variants r
      let r ← readNull (← readColon r)
      match skipSpace r with
      | [] => .error ⟨.endInObject, []⟩
      | c :: r => if c = closeBrace then .ok (name, r) else .error ⟨.expectedValue, c :: r⟩
    else if b = quoteMark then readName variants (b :: r)
    else .error ⟨.expectedValue, r⟩

end AccessDecision.Json
