import ExprGateway.Evaluation.Service

/-!
# The client in the same process

Evaluates without a connection in between.  Its errors are the service's, with the cause as a text.
-/

namespace ExprGateway

/-- Why a client gets no evaluation. -/
inductive ClientError where
  | malformed (detail : String)
  | remote (detail : String)
deriving DecidableEq, Repr

namespace ClientError

def detail : ClientError → String
  | malformed detail | remote detail => detail

def message : ClientError → String
  | malformed detail => s!"malformed expression: {detail}"
  | remote detail => s!"remote operation failed: {detail}"

/-- What a client is told of an error. -/
def of : EvaluationError → ClientError
  | .malformed defect => malformed defect.message
  | .remote failure => remote failure.message

/-- Nothing of an error's text is lost on the way to the client. -/
theorem message_of (e : EvaluationError) : (of e).message = e.message := by
  cases e <;> rfl

end ClientError

/-- The answer to a client in the same process. -/
def Turn.forClient (t : Turn) : Except ClientError Evaluation := t.answer.mapError ClientError.of

end ExprGateway
