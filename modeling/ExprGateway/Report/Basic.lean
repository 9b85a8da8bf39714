import ExprGateway.Evaluation.Basic

/-!
# Reports

Every evaluation that succeeds is reported to a collector.  A report is attempted once, and what comes
of it changes no answer.
-/

namespace ExprGateway

/-- What the collector is told of an evaluation: the expression as it was given, and its outcome. -/
structure Report where
  expression : String
  evaluation : Evaluation
deriving DecidableEq

/-- Why a report did not reach the collector. -/
structure DeliveryFailure where
  detail : String
deriving DecidableEq, Repr

def DeliveryFailure.message (f : DeliveryFailure) : String := s!"metrics delivery failed: {f.detail}"

/-- When a report is sent. -/
inductive Delivery where
  /-- Before the answer. -/
  | inline
  /-- At some time after the answer. -/
  | background
deriving DecidableEq, Repr

/-- The collector, as a machine with states `κ` of which nothing is known. -/
structure Collector (κ : Type) where
  publish : Report → κ → Except DeliveryFailure Unit × κ

/-- Who gets reports, and when. -/
structure Reporter (κ : Type) where
  collector : Collector κ
  delivery : Delivery

end ExprGateway
