import ExprGateway.Json.Value
import ExprGateway.Report.Basic

/-!
# What the collector receives

A report as JSON: the expression, the numbers of the evaluation, and the operations in order.
-/

namespace ExprGateway

/-- An operation as the collector sees it. -/
def Operation.measure (o : Operation) : Json :=
  .object [("operator", .string o.operator.symbol.toString), ("name", .string o.operator.name),
    ("a", .number o.a), ("b", .number o.b), ("result", .number o.result),
    ("durationMs", .number o.durationMs)]

/-- A report as the collector sees it. -/
def Report.measures (r : Report) : Json :=
  .object [("expression", .string r.expression), ("result", .number r.evaluation.result),
    ("totalDurationMs", .number r.evaluation.totalMs),
    ("operations", .array (r.evaluation.operations.map Operation.measure))]

/-- The text that is sent for a report. -/
def Report.payload (r : Report) : String := r.measures.compact

end ExprGateway
