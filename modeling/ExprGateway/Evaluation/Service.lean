import ExprGateway.Evaluation.Evaluator
import ExprGateway.Log.Event
import ExprGateway.Report.Basic

/-!
# The service

An expression is compiled, evaluated and, if that succeeds and reporting is on, reported once.  The
answer depends on the expression and on the services alone: a report is handed over when the answer
stands, and nothing comes back from it but log events.

Reports that are sent in the background wait in `Backends.waiting` until `Service.settle` sends them.
What is logged follows from what happened, and is no part of it.
-/

namespace ExprGateway

open Log

/-- Everything that evaluations act on. -/
structure Backends (σ κ : Type) where
  services : σ
  collector : κ
  /-- Reports that were handed over and are not sent yet, the first one first. -/
  waiting : List Report := []

/-- An evaluator with its services and its reporter, if there is one. -/
structure Service (σ κ : Type) where
  operations : Operations σ
  reporter : Option (Reporter κ)

/-- What came of an evaluation, and what is logged of it. -/
structure Turn where
  answer : Except EvaluationError Evaluation
  events : List Event

/-! ## Events -/

namespace Log

/-- Where the parts of an evaluation log to. -/
def serviceTarget : String := "calc_gateway::domain::service"

def dispatcherTarget : String := "calc_gateway::domain::dispatcher"

def metricsTarget : String := "calc_gateway::domain::metrics"

def rejected (defect : Malformed) : Event where
  level := .debug
  target := serviceTarget
  message := "Expression rejected"
  fields := [("error", .text defect.message)]

def compiled (p : Postfix) : Event where
  level := .debug
  target := serviceTarget
  message := "Expression compiled"
  fields := [("postfix", .text p.text)]

def completed (o : Operation) : Event where
  level := .debug
  target := dispatcherTarget
  message := "Remote operation completed"
  fields := [("result", .number o.result), ("duration_ms", .number o.durationMs)]

def failed (error : EvaluationError) : Event where
  level := .warn
  target := serviceTarget
  message := "Evaluation failed"
  fields := [("error", .text error.message)]

def evaluated (expression : String) (e : Evaluation) : Event where
  level := .info
  target := serviceTarget
  message := s!"{expression} = {Style.plain.write e.result}"
  fields := [("result", .number e.result), ("operations", .natural e.operations.length),
    ("total_duration_ms", .number e.totalMs)]

def timed (o : Operation) : Event where
  level := .debug
  target := serviceTarget
  message := o.line

/-- The events of an attempt at an expression that compiled. -/
def ofAttempt (expression : String) (p : Postfix) (t : Attempt) : List Event :=
  compiled p :: t.operations.map completed ++
    match t.answer with
    | .ok e => evaluated expression e :: e.operations.map timed
    | .error error => [failed error]

def ofDelivery (r : Report) : Except DeliveryFailure Unit → Event
  | .ok () => {
      level := .debug
      target := metricsTarget
      message := "Measures sent to metrics collector"
      fields := [("expression", .text r.expression)] }
  | .error failure => {
      level := .warn
      target := metricsTarget
      message := "Failed to send measures to metrics collector"
      fields := [("error", .text failure.message), ("expression", .text r.expression)] }

end Log

/-! ## Reporting -/

namespace Reporter

variable {σ κ : Type}

/-- Sends a report now. -/
def send (r : Reporter κ) (report : Report) (b : Backends σ κ) : List Event × Backends σ κ :=
  let (outcome, collector) := r.collector.publish report b.collector
  ([ofDelivery report outcome], { b with collector })

/-- Takes a report over: sends it, or lets it wait. -/
def accept (r : Reporter κ) (report : Report) (b : Backends σ κ) : List Event × Backends σ κ :=
  match r.delivery with
  | .inline => r.send report b
  | .background => ([], { b with waiting := b.waiting ++ [report] })

/-- Sends reports one after the other. -/
def sendAll (r : Reporter κ) : List Report → Backends σ κ → List Event × Backends σ κ
  | [], b => ([], b)
  | report :: rest, b =>
    let (sent, b) := r.send report b
    let (others, b) := r.sendAll rest b
    (sent ++ others, b)

end Reporter

/-! ## Evaluations -/

namespace Service

variable {σ κ : Type}

/-- Hands a report to the reporter, if there is one. -/
def report (s : Service σ κ) (report : Report) (b : Backends σ κ) : List Event × Backends σ κ :=
  match s.reporter with
  | some r => r.accept report b
  | none => ([], b)

/-- Evaluates an expression and reports it if it has a value. -/
def evaluate (s : Service σ κ) (expression : String) (b : Backends σ κ) : Turn × Backends σ κ :=
  match compile expression with
  | .error defect => (⟨.error (.malformed defect), [rejected defect]⟩, b)
  | .ok p =>
    let (attempt, services) := p.evaluate s.operations b.services
    let b := { b with services }
    let events := ofAttempt expression p attempt
    match attempt.answer with
    | .error error => (⟨.error error, events⟩, b)
    | .ok e =>
      let (sending, b) := s.report ⟨expression, e⟩ b
      (⟨.ok e, events ++ sending⟩, b)

/-- Sends the reports that wait. -/
def settle (s : Service σ κ) (b : Backends σ κ) : List Event × Backends σ κ :=
  match s.reporter with
  | some r => r.sendAll b.waiting { b with waiting := [] }
  | none => ([], b)

end Service

end ExprGateway
