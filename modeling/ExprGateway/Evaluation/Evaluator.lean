import ExprGateway.Evaluation.Basic
import ExprGateway.Evaluation.Remote
import ExprGateway.Expression.Postfix

/-!
# Evaluation in postfix order

Numbers are put on a stack; an operator takes two off, the right operand first, and puts the answer
of its service there.  The calls are made one after the other, and the first that fails ends it all.

`Attempt` keeps what was computed before a failure, for the log; the answer to a client is
`Attempt.answer`, which keeps nothing of it.
-/

namespace ExprGateway

/-- What came of an evaluation. -/
structure Attempt where
  /-- The operations that were computed, in order. -/
  operations : List Operation
  outcome : Except EvaluationError Float

/-- The evaluation if it came to its end, and otherwise only the reason. -/
def Attempt.answer (t : Attempt) : Except EvaluationError Evaluation :=
  t.outcome.map fun result => .of result t.operations

namespace Postfix

/-- The one value on the stack. -/
def settle : List Float → Except Malformed Float
  | [] => .error .empty
  | [result] => .ok result
  | stack => .error (.danglingOperands stack.length)

/-- Evaluates the rest of a sequence on a stack, the top first, after the operations `done`, the last
first. -/
def evaluateFrom {σ : Type} (ops : Operations σ) :
    Postfix → List Float → List Operation → σ → Attempt × σ
  | [], stack, done, s => (⟨done.reverse, (settle stack).mapError .malformed⟩, s)
  | .number value :: rest, stack, done, s => evaluateFrom ops rest (value :: stack) done s
  | .operator o :: rest, b :: a :: stack, done, s =>
    match ops.compute o a b s with
    | (⟨.ok result, durationMs⟩, s) =>
      evaluateFrom ops rest (result :: stack) (⟨o, a, b, result, durationMs⟩ :: done) s
    | (⟨.error failure, _⟩, s) => (⟨done.reverse, .error (.remote failure)⟩, s)
  | .operator o :: _, _, done, s => (⟨done.reverse, .error (.malformed (.missingOperand o))⟩, s)
  | .leftParen :: _, _, done, s | .rightParen :: _, _, done, s =>
    (⟨done.reverse, .error (.malformed .unbalancedParentheses)⟩, s)

/-- Evaluates a sequence, whether it was checked before or not. -/
def evaluate {σ : Type} (p : Postfix) (ops : Operations σ) (s : σ) : Attempt × σ :=
  evaluateFrom ops p [] [] s

end Postfix

end ExprGateway
