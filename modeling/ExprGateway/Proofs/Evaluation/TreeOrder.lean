import ExprGateway.Proofs.Evaluation.Trace
import ExprGateway.Proofs.Expression.Tree

/-!
# Evaluation follows the tree

`Tree.evaluate` is the evaluation that one would write down for a tree: the left subtree, the right
subtree, one call, and an end at the first call that fails.  The evaluation in postfix order is the
same (`evaluateFrom_postorder`, over any rest of the sequence, any stack below and any operations
done): for services in any state, so for services that write down their calls as well.

`Tree.evaluate_trail` is about the calls themselves.  Each of them became an operation, except that
behind a failure there is one call more, the one that failed.
-/

namespace ExprGateway

variable {σ : Type}

/-- Evaluates a tree by recursion, up to the first call that fails. -/
def Tree.evaluate (ops : Operations σ) : Tree → σ → Attempt × σ
  | leaf value, s => (⟨[], .ok value⟩, s)
  | node o left right, s =>
    match left.evaluate ops s with
    | (⟨done, .error e⟩, s) => (⟨done, .error e⟩, s)
    | (⟨done, .ok a⟩, s) =>
      match right.evaluate ops s with
      | (⟨more, .error e⟩, s) => (⟨done ++ more, .error e⟩, s)
      | (⟨more, .ok b⟩, s) =>
        match ops.compute o a b s with
        | (⟨.error failure, _⟩, s) => (⟨done ++ more, .error (.remote failure)⟩, s)
        | (⟨.ok result, durationMs⟩, s) =>
          (⟨done ++ more ++ [⟨o, a, b, result, durationMs⟩], .ok result⟩, s)

/-! ## Postfix order and recursion -/

namespace Postfix

/-- Evaluation with a stack goes through the listing of a tree as recursion goes through the tree. -/
theorem evaluateFrom_postorder (ops : Operations σ) (t : Tree) :
    ∀ (rest : Postfix) (stack : List Float) (done : List Operation) (s : σ),
      evaluateFrom ops (t.postorder ++ rest) stack done s =
        match t.evaluate ops s with
        | (⟨made, .ok value⟩, s) => evaluateFrom ops rest (value :: stack) (made.reverse ++ done) s
        | (⟨made, .error e⟩, s) => (⟨done.reverse ++ made, .error e⟩, s) := by
  induction t with
  | leaf value => exact fun _ _ _ _ => rfl
  | node o left right ihl ihr =>
      intro rest stack done s
      rw [Tree.postorder, List.append_assoc, List.append_assoc, ihl, Tree.evaluate]
      rcases left.evaluate ops s with ⟨⟨made, e | a⟩, s₁⟩
      · rfl
      · simp only
        rw [ihr]
        rcases right.evaluate ops s₁ with ⟨⟨more, e | b⟩, s₂⟩
        · simp
        · simp only [List.singleton_append, evaluateFrom]
          rcases ops.compute o a b s₂ with ⟨⟨failure | result, ms⟩, s₃⟩
          · simp
          · simp

theorem evaluate_eq_tree (ops : Operations σ) (t : Tree) (s : σ) :
    evaluate t.postorder ops s = t.evaluate ops s := by
  have h := evaluateFrom_postorder ops t [] [] [] s
  rw [List.append_nil] at h
  rw [evaluate, h]
  rcases t.evaluate ops s with ⟨⟨made, e | value⟩, s₁⟩
  · rfl
  · show (Attempt.mk (made.reverse ++ []).reverse (.ok value), s₁) = _
    rw [List.append_nil, List.reverse_reverse]

end Postfix

/-! ## The calls of an evaluation -/

/-- What is written down of an attempt: its operations, and behind a failure the call that failed. -/
inductive Trail : Attempt → List Answered → Prop where
  | finished (operations : List Operation) (result : Float) :
      Trail ⟨operations, .ok result⟩ (operations.map Operation.answered)
  | failed (operations : List Operation) (call : Call) (durationMs : Float)
      (failure : RemoteFailure) :
      Trail ⟨operations, .error (.remote failure)⟩
        (operations.map Operation.answered ++ [⟨call, ⟨.error failure, durationMs⟩⟩])

/-- Earlier operations in front of an attempt. -/
theorem Trail.after {attempt : Attempt} {calls : List Answered} (h : Trail attempt calls)
    (done : List Operation) :
    Trail ⟨done ++ attempt.operations, attempt.outcome⟩ (done.map Operation.answered ++ calls) := by
  cases h with
  | finished operations result =>
      rw [← List.map_append]
      exact .finished _ result
  | failed operations call ms failure =>
      rw [← List.append_assoc, ← List.map_append]
      exact .failed _ call ms failure

theorem Tree.evaluate_trail (ops : Operations σ) (t : Tree) :
    ∀ (s : σ) (log : List Answered), ∃ calls,
      t.evaluate ops.traced (s, log) =
        ((t.evaluate ops s).1, (t.evaluate ops s).2, log ++ calls) ∧
      Trail (t.evaluate ops s).1 calls := by
  induction t with
  | leaf value => exact fun s log => ⟨[], by simp [Tree.evaluate], .finished [] value⟩
  | node o left right ihl ihr =>
      intro s log
      obtain ⟨calls, hl, htl⟩ := ihl s log
      rw [Tree.evaluate, Tree.evaluate, hl]
      match left.evaluate ops s, htl with
      | (⟨_, _⟩, s), .failed done call ms failure => exact ⟨_, rfl, .failed done call ms failure⟩
      | (⟨_, _⟩, s), .finished done a =>
          obtain ⟨calls₂, hr, htr⟩ := ihr s (log ++ done.map Operation.answered)
          simp only [hr]
          match right.evaluate ops s, htr with
          | (⟨_, _⟩, s), .failed more call ms failure =>
              exact ⟨_, by rw [List.append_assoc], (Trail.failed more call ms failure).after done⟩
          | (⟨_, _⟩, s), .finished more b =>
              cases hc : ops.compute o a b s with
              | mk answer services =>
                  obtain ⟨outcome, ms⟩ := answer
                  simp only [ops.compute_traced hc, hc]
                  cases outcome with
                  | error failure =>
                      refine ⟨_, ?_, .failed (done ++ more) ⟨o, a, b⟩ ms failure⟩
                      simp
                  | ok result =>
                      refine ⟨_, ?_, .finished (done ++ more ++ [⟨o, a, b, result, ms⟩]) result⟩
                      simp [Operation.answered]

/-- An evaluation that comes to its end has made one operation for each operator, in postfix order. -/
theorem Tree.operators_of_evaluate (ops : Operations σ) (t : Tree) :
    ∀ {s services : σ} {operations : List Operation} {result : Float},
      t.evaluate ops s = (⟨operations, .ok result⟩, services) →
      operations.map Operation.operator = t.operators := by
  induction t with
  | leaf value =>
      intro s services operations result h
      cases h
      rfl
  | node o left right ihl ihr =>
      intro s services operations result h
      rw [Tree.evaluate] at h
      match hl : left.evaluate ops s, h with
      | (⟨done, .ok a⟩, s₁), h =>
          simp only at h
          match hr : right.evaluate ops s₁, h with
          | (⟨more, .ok b⟩, s₂), h =>
              simp only at h
              match ops.compute o a b s₂, h with
              | (⟨.ok value, ms⟩, s₃), h =>
                  cases h
                  simp [Tree.operators, ihl hl, ihr hr]

/-- Postfix order makes the calls of recursion, with the same operands in the same order, and leaves
the services in the same state.  What comes of it is either the value of the root with an operation
for each call, in order, or the error of the last call, unchanged and alone. -/
theorem postorder_evaluates_as_tree (t : Tree) (ops : Operations σ) (s : σ) :
    t.postorder.evaluate ops s = t.evaluate ops s ∧
    ∃ calls,
      t.postorder.evaluate ops.traced (s, []) = t.evaluate ops.traced (s, []) ∧
      t.evaluate ops.traced (s, []) = ((t.evaluate ops s).1, (t.evaluate ops s).2, calls) ∧
      ((∃ (operations : List Operation) (result : Float),
          (t.evaluate ops s).1.outcome = .ok result ∧
          (t.evaluate ops s).1.answer = .ok (.of result operations) ∧
          calls = operations.map Operation.answered) ∨
        ∃ (done : List Operation) (call : Call) (durationMs : Float) (failure : RemoteFailure),
          (t.evaluate ops s).1.answer = .error (.remote failure) ∧
          calls = done.map Operation.answered ++ [⟨call, ⟨.error failure, durationMs⟩⟩]) := by
  obtain ⟨calls, htraced, htrail⟩ := t.evaluate_trail ops s []
  refine ⟨Postfix.evaluate_eq_tree ops t s, calls, Postfix.evaluate_eq_tree ops.traced t (s, []),
    htraced, ?_⟩
  match (t.evaluate ops s).1, htrail with
  | _, .finished operations result => exact .inl ⟨operations, result, rfl, rfl, rfl⟩
  | _, .failed done call ms failure => exact .inr ⟨done, call, ms, failure, rfl, rfl⟩

end ExprGateway
