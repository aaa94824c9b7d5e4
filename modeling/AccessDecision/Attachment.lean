import AccessDecision.Json.Write

set_option autoImplicit false

/-! # Attachments

The conditions of a request may be any value that a caller has. Turning one into JSON can fail: the
names of an object must be texts, though whole numbers are written as such, and a value may refuse.
A number that is not finite becomes `null`. -/

namespace AccessDecision

/-- A key of a caller's map. -/
inductive AttachmentKey where
  | text (s : String)
  | int (n : Int)
  /-- A key that is no text and no number. -/
  | compound
  deriving DecidableEq, Repr

inductive Attachment where
  /-- Nothing at all. -/
  | absent
  | json (value : Json)
  /-- A floating-point number, `none` if it is not finite. -/
  | real (value : Option Binary64)
  | list (items : List Attachment)
  | map (entries : List (AttachmentKey × Attachment))
  /-- A value that cannot be turned into JSON, and says why. -/
  | failing (reason : String)

/-- Why an attachment cannot be turned into JSON. -/
inductive AttachmentError where
  | keyNotText
  | refused (reason : String)
  deriving DecidableEq, Repr

def AttachmentError.message : AttachmentError → String
  | .keyNotText => "key must be a string"
  | .refused reason => reason

def AttachmentKey.name : AttachmentKey → Except AttachmentError String
  | .text s => .ok s
  | .int n => .ok (Text.intText n)
  | .compound => .error .keyNotText

namespace Attachment

mutual

/-- The value as JSON. Names may repeat; the last entry of a name counts. -/
def plain : Attachment → Except AttachmentError Json
  | .absent => .ok .null
  | .json value => .ok value
  | .real none => .ok .null
  | .real (some x) => .ok (.real x)
  | .list items => do .ok (.array (← plainItems items))
  | .map entries => do .ok (.object (← plainEntries entries))
  | .failing reason => .error (.refused reason)

def plainItems : List Attachment → Except AttachmentError (List Json)
  | [] => .ok []
  | a :: rest => do .ok ((← plain a) :: (← plainItems rest))

def plainEntries : List (AttachmentKey × Attachment) → Except AttachmentError (List (String × Json))
  | [] => .ok []
  | (key, a) :: rest => do
    let name ← key.name
    let value ← plain a
    .ok ((name, value) :: (← plainEntries rest))

end

/-- The canonical JSON value of an attachment. -/
def toJson (a : Attachment) : Except AttachmentError Json := a.plain.map Json.canonical

theorem canonical_of_toJson {a : Attachment} {v : Json} (h : a.toJson = .ok v) : v.Canonical := by
  cases hp : a.plain with
  | error e => simp [toJson, hp, Except.map] at h
  | ok plain =>
    simp only [toJson, hp, Except.map, Except.ok.injEq] at h
    exact h ▸ Json.canonical_canonical plain

end Attachment

end AccessDecision
