import AccessDecision.Attachment
import AccessDecision.EvaluationError
import AccessDecision.Json.Record
import AccessDecision.Text.Blank

set_option autoImplicit false

/-! # Requests

A request asks whether a subject may act on a resource, on behalf of a tenant if one is named.
Requests for access and for a simulation differ only in the name of their free-form part. The type
says what every request keeps: the three texts are not blank and the free-form part is a canonical
object or list.

`Request.text` writes a request, `Request.read` and `Request.ofJson` read one, through the same
checks that `Request.make` and `Request.withDetails` apply. -/

namespace AccessDecision

inductive Purpose where
  | access
  | simulation
  deriving DecidableEq, Repr

namespace Purpose

/-- The name of the free-form part. -/
def detailsName : Purpose → String
  | .access => "conditions"
  | .simulation => "context"

/-- What a request is called while it is being read. -/
def title : Purpose → String
  | .access => "RawPolicyRequest"
  | .simulation => "RawSimulationRequest"

end Purpose

/-- An object or a list. -/
def Json.isStructured : Json → Bool
  | .array _ | .object _ => true
  | _ => false

structure Request (purpose : Purpose) where
  tenant : Option String
  subject : String
  resource : String
  action : String
  details : Json
  subject_not_blank : Text.isBlank subject = false
  resource_not_blank : Text.isBlank resource = false
  action_not_blank : Text.isBlank action = false
  details_structured : details.isStructured = true
  details_canonical : details.Canonical
  deriving DecidableEq

namespace Request

variable {purpose : Purpose}

/-! ## Building -/

/-- A text that must not be blank. It is kept as it is. -/
def required (name value : String) :
    Except EvaluationError { s : String // Text.isBlank s = false } :=
  if h : Text.isBlank value = false then .ok ⟨value, h⟩
  else .error (.invalidRequest (name ++ " must not be empty"))

/-- The free-form part of a request: `null` stands for the empty object, and nothing but objects and
lists will do otherwise. -/
def structured (purpose : Purpose) (a : Attachment) :
    Except EvaluationError { v : Json // v.isStructured = true ∧ v.Canonical } :=
  match h : a.toJson with
  | .error error => .error (.serialization (purpose.detailsName ++ ": " ++ error.message))
  | .ok .null => .ok ⟨.object [], rfl, List.Pairwise.nil, trivial⟩
  | .ok (.array items) => .ok ⟨.array items, rfl, Attachment.canonical_of_toJson h⟩
  | .ok (.object members) => .ok ⟨.object members, rfl, Attachment.canonical_of_toJson h⟩
  | .ok v => .error (.serialization
      (purpose.detailsName ++ " must be a JSON object or array, got " ++ v.text))

/-- A request without tenant and details. -/
def make (purpose : Purpose) (subject resource action : String) :
    Except EvaluationError (Request purpose) := do
  let ⟨subject, hsubject⟩ ← required "subject" subject
  let ⟨resource, hresource⟩ ← required "resource" resource
  let ⟨action, haction⟩ ← required "action" action
  .ok {
    tenant := none
    subject, resource, action
    details := .object []
    subject_not_blank := hsubject
    resource_not_blank := hresource
    action_not_blank := haction
    details_structured := rfl
    details_canonical := ⟨List.Pairwise.nil, trivial⟩ }

/-- The request with other details. -/
def withDetails (r : Request purpose) (a : Attachment) :
    Except EvaluationError (Request purpose) := do
  let ⟨details, hdetails⟩ ← structured purpose a
  .ok { r with details, details_structured := hdetails.1, details_canonical := hdetails.2 }

/-- The request on behalf of a tenant. -/
def withTenant (r : Request purpose) (tenant : String) : Request purpose :=
  { r with tenant := some tenant }

/-- The request on behalf of a tenant unless it names one itself. -/
def withDefaultTenant (r : Request purpose) (tenant : Option String) : Request purpose :=
  match r.tenant with
  | some _ => r
  | none => { r with tenant }

/-! ## As JSON -/

/-- The tenant is left out if there is none. -/
def members (r : Request purpose) : List (String × Json) :=
  (r.tenant.toList.map fun tenant => ("tenantID", .string tenant)) ++
    [("subject", .string r.subject), ("resource", .string r.resource), ("action", .string r.action),
      (purpose.detailsName, r.details)]

def text (r : Request purpose) : String := (Json.object r.members).text

/-- The parts of a request before they are checked. -/
structure Draft where
  tenant : Option String
  subject : String
  resource : String
  action : String
  details : Json

def layout (purpose : Purpose) : Json.Layout where
  title := purpose.title
  fields := [
    { name := "tenantID", kind := .optionalString, required := false },
    { name := "subject", kind := .string },
    { name := "resource", kind := .string },
    { name := "action", kind := .string },
    { name := purpose.detailsName, kind := .anything, required := false }]

def Draft.ofAssignment (purpose : Purpose) (a : Json.Assignment) : Except Json.Cause Draft := do
  let tenant ← a.optionalString "tenantID"
  let subject ← a.string "subject"
  let resource ← a.string "resource"
  let action ← a.string "action"
  .ok ⟨tenant, subject, resource, action, a.anything purpose.detailsName⟩

/-- The request that a draft describes, with the checks of `make` and `withDetails`. -/
def Draft.toRequest (purpose : Purpose) (d : Draft) : Except EvaluationError (Request purpose) := do
  let request ← make purpose d.subject d.resource d.action
  let request ← request.withDetails (.json d.details)
  .ok { request with tenant := d.tenant }

/-- Why no request is read: the text or value is not one in form, or what it says is refused. -/
inductive DecodeError where
  | json (error : Json.Error)
  | refused (error : EvaluationError)
  deriving DecidableEq

def DecodeError.message : DecodeError → String
  | .json error => error.message
  | .refused error => error.message

/-- The request of a value. -/
def ofJson (purpose : Purpose) (v : Json) : Except DecodeError (Request purpose) :=
  match (layout purpose).ofJson (Draft.ofAssignment purpose) v with
  | .error cause => .error (.json ⟨cause, none⟩)
  | .ok draft => (draft.toRequest purpose).mapError .refused

/-- The request of a text. What the request says is checked before what follows it. -/
def read (purpose : Purpose) (input : Bytes) : Except DecodeError (Request purpose) :=
  match (layout purpose).readRecord (Draft.ofAssignment purpose) input with
  | .error fault => .error (.json (fault.toError input))
  | .ok (draft, rest) =>
    match draft.toRequest purpose with
    | .error error => .error (.refused error)
    | .ok request =>
      match Json.readEnd rest with
      | .error fault => .error (.json (fault.toError input))
      | .ok () => .ok request

end Request

end AccessDecision
