import ExprGateway.Operator

/-!
# Malformed expressions

What can be wrong with an expression, and how it is said.
-/

namespace ExprGateway

/-- Why an expression does not come down to one value. -/
inductive Malformed where
  /-- There is nothing to evaluate. -/
  | empty
  /-- A piece, by its place among all pieces, is neither a symbol nor a finite number. -/
  | invalidToken (piece : String) (index : Nat)
  /-- A parenthesis has no partner. -/
  | unbalancedParentheses
  /-- An operator finds fewer than two values. -/
  | missingOperand (operator : Operator)
  /-- More than one value is left. -/
  | danglingOperands (count : Nat)
deriving DecidableEq, Repr

/-- The text of a defect. -/
def Malformed.message : Malformed → String
  | empty => "expression contains no tokens"
  | invalidToken piece index => s!"invalid token '{piece}' at index {index}"
  | unbalancedParentheses => "unbalanced parentheses"
  | missingOperand operator => s!"operator '{operator.symbol}' is missing an operand"
  | danglingOperands count => s!"{count} values left on the stack, expected exactly one"

end ExprGateway
