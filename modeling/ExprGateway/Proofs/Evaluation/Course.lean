import ExprGateway.Proofs.Evaluation.TreeOrder
import ExprGateway.Proofs.Expression.Arrangement

/-!
# The course of an evaluation, with everything that it does

`Course s expression b answer b'` lists the three ways in which the evaluation of an expression can go,
each with the calls that are made and the reports that are handed over.  An expression that does not
compile has no effect; one that compiles is the listing of a tree, so no defect is found behind a
call, and its calls are those of the tree up to the first that fails.

`Service.course` says that there is no other way, and `settle_report` what becomes of a report once
everything that waits is sent.
-/

namespace ExprGateway

variable {σ κ : Type}

/-- What compiles is the postfix order of a tree. -/
theorem exists_tree_of_compile {expression : String} {p : Postfix}
    (h : compile expression = .ok p) : ∃ t : Tree, p = t.postorder := by
  obtain ⟨ts, -, hconv⟩ := compile_eq_ok_iff.mp h
  exact Postfix.exists_tree_of_check (Postfix.ofInfix_eq_ok_iff.mp hconv).2

/-- The ways of an evaluation: its answer, and the states with their records behind it. -/
inductive Course (s : Service σ κ) (expression : String) (b : Backends σ κ) :
    Except EvaluationError Evaluation → Backends (σ × List Answered) (κ × List Report) → Prop where
  | malformed (defect : Malformed) :
      compile expression = .error defect → Course s expression b (.error (.malformed defect)) b.traced
  | failed (p : Postfix) (operations : List Operation) (call : Call) (durationMs : Float)
      (failure : RemoteFailure) (services : σ) :
      compile expression = .ok p →
      Course s expression b (.error (.remote failure))
        { b.traced with
          services := (services, operations.map Operation.answered ++
            [⟨call, ⟨.error failure, durationMs⟩⟩]) }
  | finished (p : Postfix) (operations : List Operation) (result : Float) (services : σ) :
      compile expression = .ok p → operations.map Operation.operator = p.operators →
      Course s expression b (.ok (.of result operations))
        (s.traced.report ⟨expression, .of result operations⟩
          { b.traced with services := (services, operations.map Operation.answered) }).2

namespace Service

theorem course (s : Service σ κ) (expression : String) (b : Backends σ κ) :
    Course s expression b (s.traced.evaluate expression b.traced).1.answer
      (s.traced.evaluate expression b.traced).2 := by
  cases hp : compile expression with
  | error defect =>
      rw [s.traced.evaluate_of_malformed hp]
      exact .malformed defect hp
  | ok p =>
      obtain ⟨t, rfl⟩ := exists_tree_of_compile hp
      obtain ⟨calls, htraced, htrail⟩ := t.evaluate_trail s.operations b.services []
      rw [← Postfix.evaluate_eq_tree s.operations.traced] at htraced
      match ht : t.evaluate s.operations b.services, htrail, htraced with
      | (⟨_, _⟩, services), .finished operations result, htraced =>
          rw [s.traced.evaluate_of_ok (b := b.traced) hp htraced rfl]
          have ho := Postfix.operators_postorder t ▸ t.operators_of_evaluate s.operations ht
          exact .finished _ operations result services hp ho
      | (⟨_, _⟩, services), .failed operations call ms failure, htraced =>
          rw [s.traced.evaluate_of_failed (b := b.traced) hp htraced rfl]
          exact .failed _ operations call ms failure services hp

/-- What compiles has a value, by one operation for each operator, unless a call fails. -/
theorem answer_of_compile (s : Service σ κ) {expression : String} {p : Postfix}
    (hp : compile expression = .ok p) (b : Backends σ κ) :
    (∃ e, (s.evaluate expression b).1.answer = .ok e ∧
      e.operations.map Operation.operator = p.operators) ∨
    ∃ failure, (s.evaluate expression b).1.answer = .error (.remote failure) := by
  have hcourse := s.course expression b
  have htraced : (s.traced.evaluate expression b.traced).1 = (s.evaluate expression b).1 :=
    (s.evaluate_traced expression b.traced).1
  rw [htraced] at hcourse
  generalize (s.evaluate expression b).1.answer = answer at hcourse ⊢
  generalize (s.traced.evaluate expression b.traced).2 = b' at hcourse
  cases hcourse with
  | malformed defect hdefect =>
      rw [hp] at hdefect
      cases hdefect
  | failed _ _ _ _ failure => exact .inr ⟨failure, rfl⟩
  | finished q operations result _ hq ho =>
      obtain rfl := Except.ok.inj (hq.symm.trans hp)
      exact .inl ⟨_, rfl, ho⟩

/-- What has a value was compiled, and made one operation for each operator. -/
theorem exists_compiled_of_answer (s : Service σ κ) {expression : String} {b : Backends σ κ}
    {e : Evaluation} (h : (s.evaluate expression b).1.answer = .ok e) :
    ∃ p, compile expression = .ok p ∧ e.operations.map Operation.operator = p.operators := by
  cases hp : compile expression with
  | error defect =>
      rw [s.evaluate_of_malformed hp] at h
      cases h
  | ok p =>
      rcases s.answer_of_compile hp b with ⟨e', he', hmade⟩ | ⟨failure, hfailure⟩
      · obtain rfl := Except.ok.inj (h.symm.trans he')
        exact ⟨p, rfl, hmade⟩
      · rw [h] at hfailure
        cases hfailure

/-! ## What becomes of a report -/

/-- The reports that a service makes of an evaluation: one if there is a reporter. -/
def reportsOf (s : Service σ κ) (report : Report) : List Report :=
  if s.reporter.isSome then [report] else []

/-- Where no report waits, a report that is handed over is the one attempt that comes of it. -/
theorem settle_report (s : Service σ κ) (report : Report)
    (b : Backends (σ × List Answered) (κ × List Report)) (hw : b.waiting = []) :
    (s.traced.settle (s.traced.report report b).2).2.services = b.services ∧
    (s.traced.settle (s.traced.report report b).2).2.collector.2 =
      b.collector.2 ++ s.reportsOf report := by
  obtain ⟨services, collector, waiting⟩ := b
  obtain rfl : waiting = [] := hw
  obtain ⟨operations, reporter⟩ := s
  match reporter with
  | none => exact ⟨rfl, (List.append_nil _).symm⟩
  | some ⟨c, .inline⟩ => exact ⟨rfl, rfl⟩
  | some ⟨c, .background⟩ => exact ⟨rfl, rfl⟩

/-- Where no report waits, there is nothing to settle. -/
theorem settle_of_waiting_nil (s : Service σ κ) {b : Backends σ κ} (hw : b.waiting = []) :
    (s.settle b).2 = b := by
  obtain ⟨services, collector, waiting⟩ := b
  obtain rfl : waiting = [] := hw
  obtain ⟨operations, reporter⟩ := s
  cases reporter <;> rfl

end Service

end ExprGateway
