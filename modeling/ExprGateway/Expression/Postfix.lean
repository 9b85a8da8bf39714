import ExprGateway.Expression.Token

/-!
# Postfix order

Operators behind their operands, without parentheses: the order of evaluation.

* `Postfix.check` says whether a sequence comes down to one value, by counting alone.
* `Postfix.ofInfix` brings tokens into postfix order.  Operators wait, per open parenthesis, until
  one that they precede or the end of the parenthesis releases them; misplaced operators and operands
  are found afterwards, by `check`.
* `compile` does all of it for a text.
-/

namespace ExprGateway

/-- Tokens meant to be in postfix order; `Postfix.check` tells whether they are. -/
abbrev Postfix := List Token

namespace Postfix

/-- The tokens, separated by blanks. -/
def text (p : Postfix) : String := " ".intercalate (p.map Token.text)

def isOperator : Token → Bool
  | .operator _ => true
  | _ => false

def operatorCount (p : Postfix) : Nat := p.countP isOperator

/-! ## Arity -/

/-- How many values there are after a token, if there were `depth` before it. -/
def depthAfter (depth : Nat) : Token → Except Malformed Nat
  | .number _ => .ok (depth + 1)
  | .operator o => if depth < 2 then .error (.missingOperand o) else .ok (depth - 1)
  | .leftParen | .rightParen => .error .unbalancedParentheses

/-- One value is to be left in the end. -/
def checkDepth : Nat → Except Malformed Unit
  | 0 => .error .empty
  | 1 => .ok ()
  | count => .error (.danglingOperands count)

/-- Whether a sequence comes down to one value, and if not, where evaluation would stop. -/
def check (p : Postfix) : Except Malformed Unit := p.foldlM depthAfter 0 >>= checkDepth

/-! ## Conversion -/

/-- The state of a conversion. -/
structure Yard where
  /-- What is in postfix order already, the last token first. -/
  output : List Token
  /-- The operators waiting inside the innermost open parenthesis, the last one first. -/
  waiting : List Operator
  /-- The operators waiting around each open parenthesis, the innermost first. -/
  outer : List (List Operator)

namespace Yard

def start : Yard := ⟨[], [], []⟩

/-- Puts released operators behind the output, in the order of their release. -/
def release (output : List Token) (released : List Operator) : List Token :=
  released.foldl (fun out o => .operator o :: out) output

def step (y : Yard) : Token → Except Malformed Yard
  | .number value => .ok { y with output := .number value :: y.output }
  | .operator o =>
    let (released, kept) := y.waiting.span o.yieldsTo
    .ok { y with output := release y.output released, waiting := o :: kept }
  | .leftParen => .ok { y with waiting := [], outer := y.waiting :: y.outer }
  | .rightParen =>
    match y.outer with
    | [] => .error .unbalancedParentheses
    | around :: outer => .ok ⟨release y.output y.waiting, around, outer⟩

/-- The sequence at the end of the tokens, when every parenthesis is closed. -/
def finish (y : Yard) : Except Malformed Postfix :=
  match y.outer with
  | [] => .ok (release y.output y.waiting).reverse
  | _ :: _ => .error .unbalancedParentheses

end Yard

/-- Tokens in infix order brought into postfix order. -/
def ofInfix (tokens : List Token) : Except Malformed Postfix := do
  let p ← (← tokens.foldlM Yard.step Yard.start).finish
  check p
  return p

end Postfix

/-- The postfix order of an expression. -/
def compile (expression : String) : Except Malformed Postfix :=
  tokenize expression >>= Postfix.ofInfix

end ExprGateway
