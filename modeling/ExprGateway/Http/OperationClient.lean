import ExprGateway.Evaluation.Remote
import ExprGateway.Http.Exchange
import ExprGateway.Number.Literal
import ExprGateway.Number.Style
import ExprGateway.Text.Blank
import ExprGateway.Text.Utf8

/-!
# Operations over HTTP

A call posts its two operands, separated by a blank, to the service of its operator.  The result is the
number that the response consists of, blanks around it aside.  Everything else is a failure: no
response, a response that breaks off, a status other than success, and a body that is no finite number,
in this order.
-/

namespace ExprGateway.Http

/-- The body of a call. -/
def operandsBody (a b : Float) : String := s!"{formatNumber a} {formatNumber b}"

/-- How much of a body is quoted, in characters. -/
def previewLength : Nat := 64

/-- The start of a text. -/
def preview (s : String) : String := String.ofList (s.toList.take previewLength)

/-- The kind of a failure without a whole response. -/
def lostKind (timedOut : Bool) : FailureKind := if timedOut then .timeout else .transport

/-- The result of a call, from what came of its request. -/
def readResult (o : Operator) (url : Url) : Exchange → Except RemoteFailure Float
  | .silent timedOut => .error ⟨o, lostKind timedOut, unsent url⟩
  | .broken _ timedOut => .error ⟨o, lostKind timedOut, undecoded⟩
  | .complete status body =>
    let text := Utf8.decode body
    if !isSuccess status then .error ⟨o, .status status, preview text⟩
    else match readFinite? (trimBlanks text.toList) with
      | some x => .ok x
      | none =>
        .error ⟨o, .invalidBody, s!"'{preview (trim text)}' is not a finite number"⟩

/-- How the services are reached. -/
structure OperationClient where
  endpoint : Operator → Url
  timeoutMs : UInt64

namespace OperationClient

/-- The request of a call. -/
def request (c : OperationClient) (o : Operator) (a b : Float) : Outgoing where
  url := c.endpoint o
  contentType := "text/plain"
  body := operandsBody a b
  timeoutMs := c.timeoutMs

/-- The services, reached over a connection: one request a call. -/
def operations {τ : Type} (c : OperationClient) (connection : Connection τ) : Operations τ where
  compute o a b t :=
    let (exchange, durationMs, t) := connection.exchange (c.request o a b) t
    (⟨readResult o (c.endpoint o) exchange, durationMs⟩, t)

end OperationClient

end ExprGateway.Http
