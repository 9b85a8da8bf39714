import ExprGateway.Evaluation.Service
import ExprGateway.Http.Message
import ExprGateway.Number.Digits
import ExprGateway.Text.Utf8

/-!
# Routes

Expressions are posted to `/` or to the versioned path, the bare text as the body; `/health` says that
the program is alive.  Three things come before an expression is read:

* a body that is announced to be too long is refused at once, whatever the path;
* an unknown path is 404, a known one with another method 405;
* a body that turns out longer than it may be is refused where it is read.  An announced length that
  is smaller than the limit is a limit as well.

The status of an evaluation follows from its outcome: 200, 400 for a malformed expression, 504 for a
service that did not answer in time, 502 for any other failure of a service.
-/

namespace ExprGateway.Http

open Log

/-- The longest body, in bytes. -/
def maxBodyBytes : Nat := 65536

/-- The path for evaluations besides `/`. -/
def evaluatePath : String := "/calculator-gateway/v1/evaluate"

/-- What is served. -/
inductive Resource where
  | evaluation
  | health
deriving DecidableEq, Repr

namespace Resource

/-- The resource at a path. -/
def at? (path : String) : Option Resource :=
  if path = "/" ∨ path = evaluatePath then some evaluation
  else if path = "/health" then some health
  else none

/-- The methods that a resource answers to, as a response lists them. -/
def methods : Resource → List String
  | evaluation => ["POST"]
  | health => ["GET", "HEAD"]

def allow (r : Resource) : String := ",".intercalate r.methods

end Resource

/-! ## Announced lengths -/

/-- The length of the body as the request announces it, if it can be read. -/
def Request.announcedLength? (r : Request) : Option Nat :=
  (r.header? "content-length").bind fun text => Digits.word? text.toList

/-! ## Evaluations -/

/-- The status of an error. -/
def statusOf : EvaluationError → Nat
  | .malformed _ => 400
  | .remote failure => if failure.kind = .timeout then 504 else 502

/-- The response to an evaluation. -/
def respond : Except EvaluationError Evaluation → Response
  | .ok e => .text 200 e.page
  | .error error => .text (statusOf error) (s!"error: {error.message}" ++ lineEnd)

/-- What is logged of a response: failures of services only. -/
def eventsOf : EvaluationError → List Event
  | .malformed _ => []
  | error@(.remote _) => [{
      level := .error
      target := "calc_gateway::api::rest::error"
      message := "Request failed on remote operation"
      fields := [("error", .text error.message), ("status", .natural (statusOf error))] }]

def handlerTarget : String := "calc_gateway::api::rest::handlers"

def emptyBody : Event where
  level := .debug
  target := handlerTarget
  message := "Empty body, nothing to evaluate"

def newRequest : Event where
  level := .info
  target := handlerTarget
  message := "New request"

/-- A response, and what is logged on the way to it. -/
structure Reply where
  response : Response
  events : List Event := []

variable {σ κ : Type}

/-- Evaluates the expression of a body that is not too long; an empty body has an empty answer. -/
def evaluateBody (s : Service σ κ) (body : List UInt8) (b : Backends σ κ) :
    Reply × Backends σ κ :=
  if body.isEmpty then (⟨.text 200 "", [emptyBody]⟩, b)
  else
    let (turn, b) := s.evaluate (Utf8.decode body) b
    let failing := match turn.answer with
      | .ok _ => []
      | .error error => eventsOf error
    (⟨respond turn.answer, newRequest :: turn.events ++ failing⟩, b)

/-! ## Routing -/

/-- The refusal of a body that is announced to be too long. -/
def announcedTooLong (resource : Option Resource) (method : String) : Response :=
  { Response.text 413 "length limit exceeded" with
    allow := resource.bind fun r => if method ∈ r.methods then none else some r.allow }

/-- The refusal of a body that is too long. -/
def tooLong : Response :=
  .text 413 "Failed to buffer the request body: length limit exceeded"

/-- The response of a resource without its body, if the method asks for none. -/
def Response.answering (r : Response) (method : String) : Response :=
  if method = "HEAD" then { r with body := "" } else r

/-- The answer to a request whose announced length, if there is one, is no reason to refuse it; its
body may have `limit` bytes. -/
def serve (s : Service σ κ) (limit : Nat) (r : Request) (b : Backends σ κ) :
    Reply × Backends σ κ :=
  match Resource.at? r.path with
  | none => (⟨.bare 404 none, []⟩, b)
  | some resource =>
    if r.method ∉ resource.methods then (⟨.bare 405 (some resource.allow), []⟩, b)
    else match resource with
      | .health => (⟨(Response.text 200 "ok").answering r.method, []⟩, b)
      | .evaluation =>
        if limit < r.body.length then (⟨tooLong, []⟩, b) else evaluateBody s r.body b

/-- The answer to a request. -/
def handle (s : Service σ κ) (r : Request) (b : Backends σ κ) : Reply × Backends σ κ :=
  match r.announcedLength? with
  | none => serve s maxBodyBytes r b
  | some n =>
    if maxBodyBytes < n then
      let resource := Resource.at? r.path
      let refusal := announcedTooLong resource r.method
      (⟨if resource.isSome then refusal.answering r.method else refusal, []⟩, b)
    else serve s n r b

end ExprGateway.Http
