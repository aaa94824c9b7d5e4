import AccessDecision.Client

set_option autoImplicit false

/-! # Calls in a row

A client serves any number of calls, one after the other. A `Call` is an operation with its
arguments, an `Answer` is what it returns; `Client.serve` is all that a client does in its life. -/

namespace AccessDecision

/-- What a client can be asked. -/
inductive Call where
  | evaluate (subject resource action : String) (conditions : Attachment)
  | evaluateRequest (request : Request .access)
  /-- The same, to be given up when the cancellation token fires. -/
  | evaluateCancellable (request : Request .access)
  | simulate (subject resource action : String) (context : Attachment)
  | compile (rule : String)
  | validatePolicy (policy : String)

/-- What a call returns. -/
inductive Answer where
  | decision (decision : Decision)
  | policy (text : String)
  | valid

namespace Client

/-- The outcome with another result, if it has one. -/
def Outcome.map {α β : Type} (f : α → β) (o : Outcome α) : Outcome β :=
  { o with result := o.result.map f }

def perform (c : Client) (call : Call) (s : Situation) (state : Cache.State) : Outcome Answer :=
  match call with
  | .evaluate subject resource action conditions =>
    (c.evaluate subject resource action conditions s state).map .decision
  | .evaluateRequest request => (c.evaluateRequest request false s state).map .decision
  | .evaluateCancellable request => (c.evaluateRequest request true s state).map .decision
  | .simulate subject resource action context =>
    (c.simulate subject resource action context s state).map .decision
  | .compile rule => (c.compile rule s state).map .policy
  | .validatePolicy policy => (c.validatePolicy policy s state).map fun _ => .valid

/-- The outcomes of calls that follow one another. Each finds the state that the one before left. -/
def session (c : Client) : List (Call × Situation) → Cache.State → List (Outcome Answer)
  | [], _ => []
  | (call, s) :: rest, state =>
    let outcome := c.perform call s state
    outcome :: c.session rest outcome.state

/-- The outcomes of the calls of a new client, or why there is no such client. -/
def serve (config : Config) (source : Source) (entropy : Entropy)
    (calls : List (Call × Situation)) : Except EvaluationError (List (Outcome Answer)) :=
  (make config source).map (·.session calls ⟨none, entropy⟩)

end Client

end AccessDecision
