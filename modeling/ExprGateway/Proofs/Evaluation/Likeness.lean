import ExprGateway.Proofs.Evaluation.Trace
import ExprGateway.Proofs.Expression.Entrance
import Mathlib.Data.List.Forall2

/-!
# Evaluations over services that are alike

Two evaluations of one expression go the same way if the services behind them answer alike.  What
alike means is left open: a `Likeness` says it for numbers, durations and failures, and for the
states of the services a relation `R` says it.  `Operations.Alike` is the step, one call on either
side; `Postfix.evaluateFrom_alike` is the run, where the stacks and the operations done are alike
entry by entry, and `Service.answer_alike` brings it to the answers of a service.

The reporter plays no part in it.  `Service.answer_eq` and `Service.services_eq` say why: answer and
services are those of the attempt, whatever is reported of it.
-/

namespace ExprGateway

/-- What counts as alike in two evaluations. -/
structure Likeness where
  value : Float → Float → Prop
  duration : Float → Float → Prop
  failure : RemoteFailure → RemoteFailure → Prop

namespace Likeness

variable (L : Likeness)

/-- The answers to two calls. -/
inductive SameAnswer : Answer → Answer → Prop where
  | ok {x x' ms ms' : Float} :
      L.value x x' → L.duration ms ms' → SameAnswer ⟨.ok x, ms⟩ ⟨.ok x', ms'⟩
  | error {f f' : RemoteFailure} {ms ms' : Float} :
      L.failure f f' → SameAnswer ⟨.error f, ms⟩ ⟨.error f', ms'⟩

/-- Two operations of one operator. -/
structure SameOperation (x x' : Operation) : Prop where
  operator : x.operator = x'.operator
  a : L.value x.a x'.a
  b : L.value x.b x'.b
  result : L.value x.result x'.result
  duration : L.duration x.durationMs x'.durationMs

/-- Two reasons to have no value. -/
inductive SameError : EvaluationError → EvaluationError → Prop where
  | malformed (defect : Malformed) : SameError (.malformed defect) (.malformed defect)
  | remote {f f' : RemoteFailure} : L.failure f f' → SameError (.remote f) (.remote f')

/-- Two attempts at an expression. -/
inductive SameAttempt : Attempt → Attempt → Prop where
  | finished {done done' : List Operation} {x x' : Float} :
      List.Forall₂ L.SameOperation done done' → L.value x x' →
      SameAttempt ⟨done, .ok x⟩ ⟨done', .ok x'⟩
  | failed {done done' : List Operation} {e e' : EvaluationError} :
      List.Forall₂ L.SameOperation done done' → L.SameError e e' →
      SameAttempt ⟨done, .error e⟩ ⟨done', .error e'⟩

/-- The answers to two clients. -/
inductive SameOutcome : Except EvaluationError Evaluation → Except EvaluationError Evaluation → Prop
    where
  | ok {done done' : List Operation} {x x' : Float} :
      List.Forall₂ L.SameOperation done done' → L.value x x' →
      SameOutcome (.ok (.of x done)) (.ok (.of x' done'))
  | error {e e' : EvaluationError} : L.SameError e e' → SameOutcome (.error e) (.error e')

theorem SameAttempt.answer {L : Likeness} {t t' : Attempt} (h : L.SameAttempt t t') :
    L.SameOutcome t.answer t'.answer := by
  cases h with
  | finished hdone hx => exact .ok hdone hx
  | failed _ he => exact .error he

end Likeness

variable {σ σ' κ κ' : Type}

/-- Services that answer alike, and stay in related states. -/
def Operations.Alike (L : Likeness) (R : σ → σ' → Prop) (ops : Operations σ) (ops' : Operations σ') :
    Prop :=
  ∀ (o : Operator) {a a' b b' : Float} {s : σ} {s' : σ'},
    L.value a a' → L.value b b' → R s s' →
    L.SameAnswer (ops.compute o a b s).1 (ops'.compute o a' b' s').1 ∧
      R (ops.compute o a b s).2 (ops'.compute o a' b' s').2

namespace Postfix

variable {L : Likeness} {R : σ → σ' → Prop} {ops : Operations σ} {ops' : Operations σ'}

theorem settle_alike {stack stack' : List Float} (h : List.Forall₂ L.value stack stack')
    {done done' : List Operation} (hdone : List.Forall₂ L.SameOperation done done') :
    L.SameAttempt ⟨done, (settle stack).mapError .malformed⟩
      ⟨done', (settle stack').mapError .malformed⟩ := by
  match h with
  | .nil => exact .failed hdone (.malformed _)
  | .cons hx .nil => exact .finished hdone hx
  | .cons _ (.cons _ hrest) =>
      simp only [settle, List.length_cons, hrest.length_eq]
      exact .failed hdone (.malformed _)

/-- Alike services take alike evaluations the same way to their end. -/
theorem evaluateFrom_alike (h : ops.Alike L R ops') {p : Postfix} :
    (∀ x, .number x ∈ p → L.value x x) →
    ∀ {stack stack' : List Float} {done done' : List Operation} {s : σ} {s' : σ'},
      List.Forall₂ L.value stack stack' → List.Forall₂ L.SameOperation done done' → R s s' →
      L.SameAttempt (evaluateFrom ops p stack done s).1 (evaluateFrom ops' p stack' done' s').1 ∧
        R (evaluateFrom ops p stack done s).2 (evaluateFrom ops' p stack' done' s').2 := by
  induction p with
  | nil =>
      intro _ stack stack' done done' s s' hstack hdone hs
      exact ⟨settle_alike hstack (List.forall₂_reverse_iff.mpr hdone), hs⟩
  | cons token p ih =>
      intro hnumbers stack stack' done done' s s' hstack hdone hs
      have hrest := fun x hx => hnumbers x (List.mem_cons_of_mem token hx)
      have hreverse := List.forall₂_reverse_iff.mpr hdone
      cases token with
      | number value => exact ih hrest (.cons (hnumbers value List.mem_cons_self) hstack) hdone hs
      | leftParen => exact ⟨.failed hreverse (.malformed _), hs⟩
      | rightParen => exact ⟨.failed hreverse (.malformed _), hs⟩
      | operator o =>
          match hstack with
          | .nil => exact ⟨.failed hreverse (.malformed _), hs⟩
          | .cons _ .nil => exact ⟨.failed hreverse (.malformed _), hs⟩
          | .cons (a := b) (b := b') hb (.cons (a := a) (b := a') ha hstack) =>
              obtain ⟨hanswer, hs⟩ := h o ha hb hs
              simp only [evaluateFrom]
              generalize ops.compute o a b s = t, ops'.compute o a' b' s' = t' at hanswer hs ⊢
              obtain ⟨⟨outcome, ms⟩, s⟩ := t
              obtain ⟨⟨outcome', ms'⟩, s'⟩ := t'
              cases hanswer with
              | ok hx hms => exact ih hrest (.cons hx hstack) (.cons ⟨rfl, ha, hb, hx, hms⟩ hdone) hs
              | error hf => exact ⟨.failed hreverse (.remote hf), hs⟩

theorem evaluate_alike (h : ops.Alike L R ops') {p : Postfix}
    (hnumbers : ∀ x, .number x ∈ p → L.value x x) {s : σ} {s' : σ'} (hs : R s s') :
    L.SameAttempt (p.evaluate ops s).1 (p.evaluate ops' s').1 ∧
      R (p.evaluate ops s).2 (p.evaluate ops' s').2 :=
  evaluateFrom_alike h hnumbers .nil .nil hs

end Postfix

/-! ## Answers of a service -/

namespace Service

variable (s : Service σ κ) {expression : String} {p : Postfix} (b : Backends σ κ)

theorem services_report (report : Report) : (s.report report b).2.services = b.services := by
  obtain ⟨operations, reporter⟩ := s
  match reporter with
  | none => rfl
  | some ⟨c, .inline⟩ => rfl
  | some ⟨c, .background⟩ => rfl

theorem answer_eq (hp : compile expression = .ok p) :
    (s.evaluate expression b).1.answer = (p.evaluate s.operations b.services).1.answer := by
  cases ha : (p.evaluate s.operations b.services).1.answer with
  | error e => rw [s.evaluate_of_failed hp rfl ha]
  | ok e => rw [s.evaluate_of_ok hp rfl ha]

theorem services_eq (hp : compile expression = .ok p) :
    (s.evaluate expression b).2.services = (p.evaluate s.operations b.services).2 := by
  cases ha : (p.evaluate s.operations b.services).1.answer with
  | error e =>
      rw [s.evaluate_of_failed hp rfl ha]
      rfl
  | ok e =>
      rw [s.evaluate_of_ok hp rfl ha]
      exact s.services_report _ _

variable {L : Likeness} {R : σ → σ' → Prop} (s' : Service σ' κ') (b' : Backends σ' κ')

/-- Over alike services, an expression gets alike answers, whatever is reported and to whom. -/
theorem answer_alike (h : s.operations.Alike L R s'.operations)
    (hfinite : ∀ x : Float, x.isFinite = true → L.value x x) (hs : R b.services b'.services)
    (expression : String) :
    L.SameOutcome (s.evaluate expression b).1.answer (s'.evaluate expression b').1.answer ∧
      R (s.evaluate expression b).2.services (s'.evaluate expression b').2.services := by
  cases hp : compile expression with
  | error defect =>
      rw [s.evaluate_of_malformed hp, s'.evaluate_of_malformed hp]
      exact ⟨.error (.malformed defect), hs⟩
  | ok p =>
      obtain ⟨hattempt, hs⟩ := Postfix.evaluate_alike h
        (fun x hx => hfinite x (finite_of_compile hp hx)) hs
      rw [s.answer_eq b hp, s'.answer_eq b' hp, s.services_eq b hp, s'.services_eq b' hp]
      exact ⟨hattempt.answer, hs⟩

end Service

end ExprGateway
