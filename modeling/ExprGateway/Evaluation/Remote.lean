import ExprGateway.Expression.Malformed

/-!
# Remote operations

The gateway computes nothing itself: it asks one service per operator.  `Operations σ` is the view
that an evaluation has of the four of them, as a machine with states `σ` of which nothing is known;
each call gets one answer.  What fails, fails with a kind and a text.
-/

namespace ExprGateway

/-- Why a call to a service failed. -/
inductive FailureKind where
  /-- No answer came, or it broke off. -/
  | transport
  /-- No answer came in time. -/
  | timeout
  /-- The service answered with a status that is no success. -/
  | status (code : Nat)
  /-- The answer is not a finite number. -/
  | invalidBody
deriving DecidableEq, Repr

/-- The text of a kind of failure. -/
def FailureKind.text : FailureKind → String
  | transport => "unreachable"
  | timeout => "timed out"
  | status code => s!"returned HTTP {code}"
  | invalidBody => "returned an invalid body"

/-- A failed call. -/
structure RemoteFailure where
  operator : Operator
  kind : FailureKind
  detail : String
deriving DecidableEq, Repr

/-- The text of a failed call. -/
def RemoteFailure.message (f : RemoteFailure) : String :=
  s!"{f.operator.name} service {f.kind.text}: {f.detail}"

/-- Why an expression has no value. -/
inductive EvaluationError where
  | malformed (defect : Malformed)
  | remote (failure : RemoteFailure)
deriving DecidableEq, Repr

namespace EvaluationError

/-- The text of the cause alone. -/
def detail : EvaluationError → String
  | malformed defect => defect.message
  | remote failure => failure.message

/-- The text of an error: what kind it is, and its cause. -/
def message : EvaluationError → String
  | malformed defect => s!"malformed expression: {defect.message}"
  | remote failure => s!"remote operation failed: {failure.message}"

end EvaluationError

/-- What comes of a call. -/
structure Answer where
  outcome : Except RemoteFailure Float
  /-- How long the call took, in milliseconds. -/
  durationMs : Float

/-- The services of the four operators, seen from an evaluation. -/
structure Operations (σ : Type) where
  /-- The answer for an operator, its left and its right operand, and the state after it. -/
  compute : Operator → Float → Float → σ → Answer × σ

/-- A call of an operation. -/
structure Call where
  operator : Operator
  a : Float
  b : Float
deriving DecidableEq

/-- The same services, with every call written down, the last one first. -/
def Operations.recorded {σ : Type} (ops : Operations σ) : Operations (σ × List Call) where
  compute o a b s :=
    let (answer, services) := ops.compute o a b s.1
    (answer, services, ⟨o, a, b⟩ :: s.2)

end ExprGateway
