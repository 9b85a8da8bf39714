import ExprGateway.Operator
import ExprGateway.Number.Style

/-!
# Operations and evaluations

What an evaluation leaves behind: its result, and for each operator what was computed and how long
the service took.  `Operation.line` and `Evaluation.page` are their texts.
-/

namespace ExprGateway

/-- An operation that a service has computed. -/
structure Operation where
  operator : Operator
  a : Float
  b : Float
  result : Float
  /-- How long the call took, in milliseconds. -/
  durationMs : Float
deriving DecidableEq

/-- The outcome of a whole expression. -/
structure Evaluation where
  result : Float
  /-- In the order in which they were computed. -/
  operations : List Operation
  /-- What the operations took together, in milliseconds. -/
  totalMs : Float
deriving DecidableEq

/-- The sum of durations, added up in order.  It starts at negative zero, the neutral element of
addition. -/
def totalDuration (operations : List Operation) : Float :=
  operations.foldl (fun sum o => sum + o.durationMs) (-0.0)

/-- An evaluation from its result and its operations. -/
def Evaluation.of (result : Float) (operations : List Operation) : Evaluation :=
  ⟨result, operations, totalDuration operations⟩

/-- How long an operation took, to the microsecond. -/
def Operation.timing (o : Operation) : String := fixed 3 o.durationMs

/-- The timing line, `Sum: 1 + 2 = 3 (0.640 ms)`. -/
def Operation.line (o : Operation) : String :=
  s!"{o.operator.name}: {formatNumber o.a} {o.operator.symbol} {formatNumber o.b}" ++
    s!" = {formatNumber o.result} ({o.timing} ms)"

/-- The end of a line. -/
def lineEnd : String := "\r\n"

/-- The answer to a client: the result, a heading and a timing line for each operation. -/
def Evaluation.page (e : Evaluation) : String :=
  s!"result = {formatNumber e.result}" ++ lineEnd ++ "operations timings:" ++ lineEnd ++
    String.join (e.operations.map fun o => o.line ++ lineEnd)

end ExprGateway
