import AccessDecision.Http.Header
import AccessDecision.Url.Basic

set_option autoImplicit false

/-! # Requests and responses -/

namespace AccessDecision.Http

inductive Method where
  | get
  | post
  deriving DecidableEq, Repr

def Method.name : Method → String
  | .get => "GET"
  | .post => "POST"

structure Request where
  method : Method
  url : Url
  headers : Headers
  body : Bytes
  deriving DecidableEq

namespace Request

/-- The URL as the service sees it: without name, password and fragment. -/
def seenUrl (r : Request) : Url := { r.url.withoutUserInfo with fragment := none }

/-- The host of a request as a header names it. -/
def host (r : Request) : String := String.ofList r.url.hostChars

/-- The names and values that are sent: the host is among them unless a header names another one. -/
def fields (r : Request) : List (String × String) :=
  let given := r.headers.map fun h => (h.name, h.value)
  if r.headers.has "host" then given else given ++ [("host", r.host)]

end Request

/-- A status that says that the request was fulfilled. -/
def isSuccess (status : Nat) : Bool := 200 ≤ status && status < 300

/-- The bytes that follow the head of an answer. -/
inductive Body where
  | whole (bytes : Bytes)
  /-- The connection ends before they are all there. -/
  | cutShort
  /-- They are not all there in time. -/
  | late
  deriving DecidableEq

/-- The bytes, if all of them arrive. -/
def Body.bytes? : Body → Option Bytes
  | .whole bytes => some bytes
  | .cutShort | .late => none

/-- What comes back for a request. -/
structure Response where
  status : Nat
  headers : List (String × String)
  body : Body
  deriving DecidableEq

namespace Response

/-- A status that has no body. -/
def isBodiless (r : Response) : Bool := r.status = 204 || r.status = 304

/-- The body, if all of it arrived. -/
def content (r : Response) : Option Bytes := if r.isBodiless then some [] else r.body.bytes?

/-- The first value of a header, whose name is given in lower case. -/
def header? (r : Response) (name : String) : Option String :=
  (r.headers.find? fun (n, _) => Header.lowered n = name).map Prod.snd

end Response

end AccessDecision.Http
