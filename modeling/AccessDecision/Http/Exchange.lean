import AccessDecision.EvaluationError
import AccessDecision.Http.Message
import AccessDecision.Http.Uri

set_option autoImplicit false

/-! # Exchanges

An exchange sends a request and follows the redirects that come back, ten of them at most, until
there is an answer. What the network does with each request is a function of the requests sent so
far, so a statement about all networks is a statement about all such functions. The exchange may be
given up at any time: each `Hop` tells whether the cancellation token had fired by then. -/

namespace AccessDecision.Http

/-! ## The network -/

/-- What becomes of a request that is sent. -/
inductive Reception where
  | answered (response : Response)
  /-- There is no connection to the host. -/
  | unreachable
  /-- There is no answer in time. -/
  | timedOut
  /-- The connection ends without an answer, or with one that is not HTTP. -/
  | broken
  deriving DecidableEq

structure Hop where
  reception : Reception
  /-- Whether the cancellation token had fired when this became known. -/
  cancelled : Bool := false
  deriving DecidableEq

/-- What becomes of the last of the requests that an exchange has sent so far. -/
abbrev Network := List Request → Hop

/-! ## Failures -/

inductive Failure where
  | cancelled
  | unreachable (url : Url)
  | timedOut (url : Url)
  | broken (url : Url)
  /-- One redirect too many, answered by the URL. -/
  | tooManyRedirects (url : Url)
  /-- The body is not complete. -/
  | cutShort
  /-- The body is not there in time. -/
  | late
  /-- There is no request for the URL, if there is a URL. -/
  | unsendable (url : Option Url)
  deriving DecidableEq

namespace Failure

/-- A reason and the URL that it is about. -/
def about (reason : String) (url : Url) : String := reason ++ " for url (" ++ url.text ++ ")"

/-- What is said of a body that does not arrive, whatever keeps it. -/
def undecoded : String := "error decoding response body"

def toError : Failure → EvaluationError
  | .cancelled => .transport .cancelled
  | .unreachable url => .transport (.connect (about "error sending request" url))
  | .timedOut url => .transport (.timeout (about "error sending request" url))
  | .broken url => .transport (.other (about "error sending request" url))
  | .tooManyRedirects url => .transport (.other (about "error following redirect" url))
  | .cutShort => .transport (.other undecoded)
  | .late => .transport (.timeout undecoded)
  | .unsendable (some url) => .configuration (about "builder error" url)
  | .unsendable none => .configuration "builder error"

end Failure

/-! ## Where a request can go -/

/-- Whether a URL is one of HTTP. -/
def isWeb (url : Url) : Bool := url.scheme = "http".toList || url.scheme = "https".toList

/-- Whether a request can name a URL. -/
def isSendable (url : Url) : Bool := isUri url.chars

/-! ## Redirects -/

/-- Where an answer sends the client instead: a URL that no request can name leads nowhere, of
whatever scheme it is. -/
def Response.target? (r : Response) (source : Url) : Option Url :=
  if [301, 302, 303, 307, 308].contains r.status then
    match r.header? "location" with
    | none => none
    | some location =>
      match source.join location with
      | .error _ => none
      | .ok target => if isSendable target then some target else none
  else none

/-- Headers that only the host they were meant for may see. -/
def confidential : List String :=
  ["authorization", "cookie", "cookie2", "proxy-authorization", "www-authenticate"]

/-- Headers about a body. -/
def aboutBody : List String :=
  ["content-type", "content-length", "content-encoding", "transfer-encoding"]

/-- Whether two URLs lead to the same host and port. -/
def sameOrigin (a b : Url) : Bool := a.host = b.host && a.effectivePort = b.effectivePort

/-- The header that tells where a redirect comes from. It is not told where it could be overheard.
-/
def referer? (source target : Url) : Option Header :=
  if source.scheme = "https".toList && target.scheme = "http".toList then none
  else (Header.of "referer" source.text).toOption

/-- The request that follows a redirect. Only 307 and 308 keep the method and the body. -/
def Request.redirected (r : Request) (status : Nat) (target : Url) : Request :=
  let keeps := status = 307 || status = 308
  let headers := if keeps then r.headers else r.headers.without aboutBody
  let headers := match referer? r.seenUrl target with
    | some referer => headers.set referer
    | none => headers
  { method := if keeps then r.method else .get
    url := target
    headers := if sameOrigin r.url target then headers else headers.without confidential
    body := if keeps then r.body else [] }

/-! ## Exchanges -/

/-- Sends a request and follows up to `redirects` redirects. Returns the requests that reached a
host, after those in `earlier`. -/
def exchangeFrom (network : Network) (cancellable : Bool) (first : Url) (redirects : Nat)
    (earlier : List Request) (request : Request) : Except Failure Response × List Request :=
  let hop := network (earlier ++ [request])
  let sent := if hop.reception = .unreachable then earlier else earlier ++ [request]
  if cancellable && hop.cancelled then (.error .cancelled, sent)
  else
    match hop.reception with
    | .unreachable => (.error (.unreachable first), sent)
    | .timedOut => (.error (.timedOut first), sent)
    | .broken => (.error (.broken first), sent)
    | .answered response =>
      match response.target? request.url, redirects with
      | none, _ => (.ok response, sent)
      | some _, 0 => (.error (.tooManyRedirects request.url), sent)
      | some target, redirects + 1 =>
        if !isWeb target then (.error (.unsendable (some target)), sent)
        else exchangeFrom network cancellable first redirects sent
          (request.redirected response.status target)

/-- How many redirects are followed. -/
def maxRedirects : Nat := 10

/-- How the body of an answer is missed. -/
def Response.loss (r : Response) : Failure := if r.body = .late then .late else .cutShort

/-- The status and the body of an answer, if all of the body arrives. -/
def Response.whole (r : Response) : Except Failure (Nat × Bytes) :=
  match r.content with
  | some body => .ok (r.status, body)
  | none => .error r.loss

/-- Sends a request and returns the status and the body of the answer, and the requests that reached
a host. -/
def exchange (network : Network) (cancellable : Bool) (request : Request) :
    Except Failure (Nat × Bytes) × List Request :=
  if !isSendable request.url then (.error (.unsendable (some request.url)), [])
  else
    let (answer, sent) := exchangeFrom network cancellable request.url maxRedirects [] request
    (answer >>= Response.whole, sent)

end AccessDecision.Http
