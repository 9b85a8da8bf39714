import ExprGateway.Evaluation.Service

/-!
# Writing down what happens

The services and the collector are machines of which nothing is known, so nothing in their states says
how often they were asked.  `Service.traced` is a service over the same machines with a record beside
each: the calls with their answers, and the reports that were attempted, both in order.

The record is a ghost.  `evaluate_traced` says that it can be erased: answers, events and the states
beside the record are those of the service itself.
-/

namespace ExprGateway

/-- A call with the answer that it got. -/
structure Answered extends Call where
  answer : Answer

/-- An operation, as the call that computed it. -/
def Operation.answered (o : Operation) : Answered :=
  ⟨⟨o.operator, o.a, o.b⟩, ⟨.ok o.result, o.durationMs⟩⟩

variable {σ κ : Type}

/-! ## The courses of an evaluation

`Service.evaluate` ends in one of three ways. -/

namespace Service

variable (s : Service σ κ) {expression : String} {b : Backends σ κ} {p : Postfix}
  {attempt : Attempt} {services : σ}

theorem evaluate_of_malformed {defect : Malformed} (hp : compile expression = .error defect) :
    s.evaluate expression b = (⟨.error (.malformed defect), [Log.rejected defect]⟩, b) := by
  rw [evaluate, hp]

theorem evaluate_of_failed {error : EvaluationError} (hp : compile expression = .ok p)
    (he : p.evaluate s.operations b.services = (attempt, services))
    (ha : attempt.answer = .error error) :
    s.evaluate expression b =
      (⟨.error error, Log.ofAttempt expression p attempt⟩, { b with services }) := by
  simp only [evaluate, hp, he, ha]

theorem evaluate_of_ok {e : Evaluation} (hp : compile expression = .ok p)
    (he : p.evaluate s.operations b.services = (attempt, services))
    (ha : attempt.answer = .ok e) :
    s.evaluate expression b =
      (⟨.ok e, Log.ofAttempt expression p attempt ++
          (s.report ⟨expression, e⟩ { b with services }).1⟩,
        (s.report ⟨expression, e⟩ { b with services }).2) := by
  simp only [evaluate, hp, he, ha]

end Service

/-! ## Records -/

/-- The same services, with every call and its answer written down. -/
def Operations.traced (ops : Operations σ) : Operations (σ × List Answered) where
  compute o a b s :=
    let (answer, services) := ops.compute o a b s.1
    (answer, services, s.2 ++ [⟨⟨o, a, b⟩, answer⟩])

theorem Operations.compute_traced (ops : Operations σ) {o : Operator} {a b : Float} {s services : σ}
    {answer : Answer} {log : List Answered} (h : ops.compute o a b s = (answer, services)) :
    ops.traced.compute o a b (s, log) = (answer, services, log ++ [⟨⟨o, a, b⟩, answer⟩]) := by
  simp only [traced, h]

/-- The same collector, with every attempt written down, whatever comes of it. -/
def Collector.traced (c : Collector κ) : Collector (κ × List Report) where
  publish r s :=
    let (outcome, collector) := c.publish r s.1
    (outcome, collector, s.2 ++ [r])

def Reporter.traced (r : Reporter κ) : Reporter (κ × List Report) :=
  ⟨r.collector.traced, r.delivery⟩

def Service.traced (s : Service σ κ) : Service (σ × List Answered) (κ × List Report) :=
  ⟨s.operations.traced, s.reporter.map Reporter.traced⟩

/-- States with empty records beside them. -/
def Backends.traced (b : Backends σ κ) : Backends (σ × List Answered) (κ × List Report) :=
  ⟨(b.services, []), (b.collector, []), b.waiting⟩

/-- States without the records. -/
def Backends.erased (b : Backends (σ × List Answered) (κ × List Report)) : Backends σ κ :=
  ⟨b.services.1, b.collector.1, b.waiting⟩

/-! ## The record can be erased -/

/-- A result and a state with a record, and the same without. -/
def Erases {α : Type} (traced : α × Backends (σ × List Answered) (κ × List Report))
    (plain : α × Backends σ κ) : Prop :=
  traced.1 = plain.1 ∧ traced.2.erased = plain.2

theorem Postfix.evaluateFrom_traced (ops : Operations σ) (p : Postfix) :
    ∀ (stack : List Float) (done : List Operation) (s : σ × List Answered),
      (evaluateFrom ops.traced p stack done s).1 = (evaluateFrom ops p stack done s.1).1 ∧
      (evaluateFrom ops.traced p stack done s).2.1 = (evaluateFrom ops p stack done s.1).2 := by
  induction p with
  | nil => exact fun _ _ _ => ⟨rfl, rfl⟩
  | cons token p ih =>
      intro stack done s
      cases token with
      | number value => exact ih _ _ s
      | leftParen => exact ⟨rfl, rfl⟩
      | rightParen => exact ⟨rfl, rfl⟩
      | operator o =>
          match stack with
          | [] => exact ⟨rfl, rfl⟩
          | [_] => exact ⟨rfl, rfl⟩
          | b :: a :: stack =>
              cases hc : ops.compute o a b s.1 with
              | mk answer services =>
                  obtain ⟨outcome, ms⟩ := answer
                  simp only [evaluateFrom, ops.compute_traced hc, hc]
                  cases outcome with
                  | error failure => exact ⟨rfl, rfl⟩
                  | ok result => exact ih _ _ _

theorem Reporter.accept_traced (r : Reporter κ) (report : Report)
    (b : Backends (σ × List Answered) (κ × List Report)) :
    Erases (r.traced.accept report b) (r.accept report b.erased) := by
  obtain ⟨collector, delivery⟩ := r
  cases delivery <;> exact ⟨rfl, rfl⟩

namespace Service

theorem report_traced (s : Service σ κ) (report : Report)
    (b : Backends (σ × List Answered) (κ × List Report)) :
    Erases (s.traced.report report b) (s.report report b.erased) := by
  obtain ⟨operations, reporter⟩ := s
  cases reporter with
  | none => exact ⟨rfl, rfl⟩
  | some r => exact r.accept_traced report b

theorem evaluate_traced (s : Service σ κ) (expression : String)
    (b : Backends (σ × List Answered) (κ × List Report)) :
    Erases (s.traced.evaluate expression b) (s.evaluate expression b.erased) := by
  cases hp : compile expression with
  | error defect =>
      rw [s.evaluate_of_malformed hp, s.traced.evaluate_of_malformed hp]
      exact ⟨rfl, rfl⟩
  | ok p =>
      obtain ⟨h₁, h₂⟩ := p.evaluateFrom_traced s.operations [] [] b.services
      cases ht : p.evaluate s.traced.operations b.services with
      | mk attempt services =>
          have hs : p.evaluate s.operations b.erased.services = (attempt, services.1) :=
            Prod.ext (h₁.symm.trans (congrArg Prod.fst ht))
              (h₂.symm.trans (congrArg (fun t => t.2.1) ht))
          cases ha : attempt.answer with
          | error e =>
              rw [s.evaluate_of_failed hp hs ha, s.traced.evaluate_of_failed hp ht ha]
              exact ⟨rfl, rfl⟩
          | ok e =>
              rw [s.evaluate_of_ok hp hs ha, s.traced.evaluate_of_ok hp ht ha]
              obtain ⟨hr, hb⟩ := s.report_traced ⟨expression, e⟩ { b with services }
              refine ⟨?_, hb⟩
              show Turn.mk _ (_ ++ _) = Turn.mk _ (_ ++ _)
              rw [hr]
              rfl

end Service

end ExprGateway
