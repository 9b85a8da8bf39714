/-!
# Operators

The four binary operators, in the order in which their services are configured.  All of them group
to the left; products and quotients bind more tightly than sums and differences.
-/

namespace ExprGateway

/-- A binary arithmetic operator; each is computed by a service of its own. -/
inductive Operator where
  | add
  | subtract
  | multiply
  | divide
deriving DecidableEq, Repr, Inhabited

/-- To which side a chain of operators of one precedence is grouped. -/
inductive Associativity where
  | left
  | right
deriving DecidableEq, Repr

namespace Operator

/-- All operators, in the order of their services. -/
def all : List Operator := [add, subtract, multiply, divide]

/-- The character that writes an operator. -/
def symbol : Operator → Char
  | add => '+'
  | subtract => '-'
  | multiply => '*'
  | divide => '/'

/-- The operator that a character writes. -/
def ofSymbol? : Char → Option Operator
  | '+' => some add
  | '-' => some subtract
  | '*' => some multiply
  | '/' => some divide
  | _ => none

@[simp] theorem ofSymbol?_symbol (o : Operator) : ofSymbol? o.symbol = some o := by
  cases o <;> rfl

/-- The operator of the higher precedence is applied first. -/
def precedence : Operator → Nat
  | multiply | divide => 3
  | add | subtract => 2

def associativity (_ : Operator) : Associativity := .left

/-- The name in timing lines, reports and failures. -/
def name : Operator → String
  | add => "Sum"
  | subtract => "Subtraction"
  | multiply => "Multiplication"
  | divide => "Division"

/-- The name for a character, whether it writes an operator or not. -/
def nameOfSymbol (c : Char) : String := ((ofSymbol? c).map name).getD "Operation"

/-- Whether `top`, met first, is applied before `next`. -/
def yieldsTo (next top : Operator) : Bool :=
  match next.associativity with
  | .left => next.precedence ≤ top.precedence
  | .right => next.precedence < top.precedence

/-- An operator yields to one of its own precedence, since all of them group to the left. -/
theorem yieldsTo_iff (next top : Operator) :
    next.yieldsTo top = true ↔ next.precedence ≤ top.precedence := by
  simp [yieldsTo, associativity]

end Operator

end ExprGateway
