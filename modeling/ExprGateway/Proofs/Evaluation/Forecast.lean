import ExprGateway.Proofs.Evaluation.TreeOrder

/-!
# What the arity check foretells

The check counts values and the evaluation stacks them, so the two keep step as long as the count is the
height of the stack.  `Counted depth p front verdict` says how far the check gets over a sequence: the
tokens that it reads before it stops, and what it says then.  Over the same tokens the evaluation makes
one call for each operator, and then says the same (`evaluateFrom_counted`).  The only way to part from
the check is a call that fails, and that failure is the last thing that happens.

`check_foretells` is what this comes to for a whole sequence, in postfix order or not.
-/

namespace ExprGateway

variable {σ : Type}

namespace Postfix

/-! ## How far the check gets -/

/-- The check, with `depth` values before the sequence: the tokens that it reads before it stops, and its
verdict.  It stops at the end, or at the first token that is a defect. -/
inductive Counted : Nat → Postfix → Postfix → Except Malformed Unit → Prop where
  | atEnd (depth : Nat) : Counted depth [] [] (checkDepth depth)
  | defect {depth : Nat} {t : Token} {defect : Malformed} (rest : Postfix) :
      depthAfter depth t = .error defect → Counted depth (t :: rest) [] (.error defect)
  | read {depth depth' : Nat} {t : Token} {rest front : Postfix} {verdict : Except Malformed Unit} :
      depthAfter depth t = .ok depth' → Counted depth' rest front verdict →
      Counted depth (t :: rest) (t :: front) verdict

theorem exists_counted (p : Postfix) :
    ∀ depth, ∃ front, Counted depth p front (p.foldlM depthAfter depth >>= checkDepth) := by
  induction p with
  | nil => exact fun depth => ⟨[], .atEnd depth⟩
  | cons t p ih =>
      intro depth
      rw [List.foldlM_cons]
      cases ht : depthAfter depth t with
      | error defect => exact ⟨[], .defect p ht⟩
      | ok depth' =>
          obtain ⟨front, hfront⟩ := ih depth'
          exact ⟨t :: front, .read ht hfront⟩

/-- The check of a whole sequence gets as far as some front of it. -/
theorem exists_counted_check (p : Postfix) : ∃ front, Counted 0 p front (check p) :=
  exists_counted p 0

/-- A verdict that tells how many values are left is one on the whole sequence. -/
inductive AtEnd : Except Malformed Unit → Prop where
  | ok : AtEnd (.ok ())
  | empty : AtEnd (.error .empty)
  | danglingOperands (count : Nat) : AtEnd (.error (.danglingOperands count))

theorem not_atEnd_of_depthAfter {depth : Nat} {t : Token} {defect : Malformed}
    (h : depthAfter depth t = .error defect) : ¬ AtEnd (.error defect) := by
  intro hend
  cases t with
  | number value => cases h
  | operator o =>
      simp only [depthAfter] at h
      split at h
      · cases h
        cases hend
      · cases h
  | leftParen =>
      cases h
      cases hend
  | rightParen =>
      cases h
      cases hend

theorem Counted.eq_of_atEnd {depth : Nat} {p front : Postfix} {verdict : Except Malformed Unit}
    (h : Counted depth p front verdict) (hend : AtEnd verdict) : front = p := by
  induction h with
  | atEnd => rfl
  | defect _ ht => exact absurd hend (not_atEnd_of_depthAfter ht)
  | read _ _ ih => rw [ih hend]

/-! ## Evaluation beside the check -/

/-- What an evaluation makes of the tokens that the check reads: the operations behind those that are
done, the outcome, and the calls.  Either all calls succeed, one for each operator, and the outcome is
the verdict; or the last one fails, and its failure is the outcome. -/
inductive Foretold (front : Postfix) (verdict : Except Malformed Unit) (done : List Operation) :
    Attempt → List Answered → Prop where
  | through (made : List Operation) (outcome : Except Malformed Float) :
      made.map Operation.operator = front.operators → outcome.map (fun _ => ()) = verdict →
      Foretold front verdict done ⟨done.reverse ++ made, outcome.mapError .malformed⟩
        (made.map Operation.answered)
  | failed (made : List Operation) (call : Call) (durationMs : Float) (failure : RemoteFailure) :
      made.map Operation.operator ++ [call.operator] <+: front.operators →
      Foretold front verdict done ⟨done.reverse ++ made, .error (.remote failure)⟩
        (made.map Operation.answered ++ [⟨call, ⟨.error failure, durationMs⟩⟩])

/-- One operation that is computed, in front of what is foretold of the rest. -/
theorem Foretold.cons {front : Postfix} {verdict : Except Malformed Unit} {done : List Operation}
    {attempt : Attempt} {calls : List Answered} (x : Operation)
    (h : Foretold front verdict (x :: done) attempt calls) :
    Foretold (.operator x.operator :: front) verdict done attempt (x.answered :: calls) := by
  have hoperators : operators (.operator x.operator :: front) = x.operator :: front.operators := rfl
  have hreverse : ∀ made, (x :: done).reverse ++ made = done.reverse ++ x :: made := by simp
  cases h with
  | through made outcome hmade hverdict =>
      rw [hreverse]
      exact .through (x :: made) outcome (by rw [hoperators, ← hmade]; rfl) hverdict
  | failed made call ms failure hprefix =>
      rw [hreverse]
      refine .failed (x :: made) call ms failure ?_
      rw [hoperators]
      exact List.cons_prefix_cons.mpr ⟨rfl, hprefix⟩

/-- A number is no operator. -/
theorem Foretold.number {front : Postfix} {verdict : Except Malformed Unit} {done : List Operation}
    {attempt : Attempt} {calls : List Answered} (value : Float)
    (h : Foretold front verdict done attempt calls) :
    Foretold (.number value :: front) verdict done attempt calls := by
  cases h with
  | through made outcome hmade hverdict => exact .through made outcome hmade hverdict
  | failed made call ms failure hprefix => exact .failed made call ms failure hprefix

/-- The evaluation stops at a defect as the check does. -/
theorem evaluateFrom_defect (ops : Operations σ) {t : Token} {stack : List Float} {defect : Malformed}
    (h : depthAfter stack.length t = .error defect) (rest : Postfix) (done : List Operation) (s : σ) :
    evaluateFrom ops (t :: rest) stack done s = (⟨done.reverse, .error (.malformed defect)⟩, s) := by
  cases t with
  | number value => cases h
  | leftParen =>
      cases h
      rfl
  | rightParen =>
      cases h
      rfl
  | operator o =>
      match stack, h with
      | [], h =>
          cases h
          rfl
      | [_], h =>
          cases h
          rfl

/-- The values on a stack are what the check says of their number. -/
theorem settle_map (stack : List Float) :
    (settle stack).map (fun _ => ()) = checkDepth stack.length := by
  match stack with
  | [] => rfl
  | [_] => rfl
  | _ :: _ :: _ => rfl

theorem foretold_of_settled {verdict : Except Malformed Unit} {done : List Operation}
    (outcome : Except Malformed Float) (h : outcome.map (fun _ => ()) = verdict) :
    Foretold [] verdict done ⟨done.reverse, outcome.mapError .malformed⟩ [] := by
  have hnone : Foretold [] verdict done ⟨done.reverse ++ [], outcome.mapError .malformed⟩ [] :=
    .through [] outcome rfl h
  rw [List.append_nil] at hnone
  exact hnone

theorem foretold_of_failed {front : Postfix} {verdict : Except Malformed Unit} {done : List Operation}
    (call : Call) (durationMs : Float) (failure : RemoteFailure) :
    Foretold (.operator call.operator :: front) verdict done
      ⟨done.reverse, .error (.remote failure)⟩ [⟨call, ⟨.error failure, durationMs⟩⟩] := by
  have hprefix : [call.operator] <+: operators (.operator call.operator :: front) :=
    List.prefix_append [call.operator] front.operators
  have hfirst : Foretold (.operator call.operator :: front) verdict done
      ⟨done.reverse ++ [], .error (.remote failure)⟩ [⟨call, ⟨.error failure, durationMs⟩⟩] :=
    .failed [] call durationMs failure hprefix
  rw [List.append_nil] at hfirst
  exact hfirst

/-- An operator that is no defect finds its operands on the stack. -/
theorem exists_operands {stack : List Float} {o : Operator} {depth : Nat}
    (h : depthAfter stack.length (.operator o) = .ok depth) :
    ∃ b a below, stack = b :: a :: below ∧ below.length + 1 = depth := by
  match stack, h with
  | b :: a :: below, h => exact ⟨b, a, below, rfl, Except.ok.inj h⟩

/-- Evaluation keeps step with the check, over any operations that are done and calls that are made. -/
theorem evaluateFrom_counted (ops : Operations σ) {depth : Nat} {p front : Postfix}
    {verdict : Except Malformed Unit} (h : Counted depth p front verdict) :
    ∀ (stack : List Float) (done : List Operation) (s : σ) (log : List Answered),
      stack.length = depth →
      ∃ calls, (evaluateFrom ops.traced p stack done (s, log)).2.2 = log ++ calls ∧
        Foretold front verdict done (evaluateFrom ops.traced p stack done (s, log)).1 calls := by
  induction h with
  | atEnd depth =>
      rintro stack done s log rfl
      exact ⟨[], (List.append_nil _).symm, foretold_of_settled (settle stack) (settle_map stack)⟩
  | @defect depth t defect rest ht =>
      rintro stack done s log rfl
      have hstop : evaluateFrom ops.traced (t :: rest) stack done (s, log) =
          (⟨done.reverse, .error (.malformed defect)⟩, s, log) := evaluateFrom_defect _ ht rest done _
      rw [hstop]
      exact ⟨[], (List.append_nil log).symm, foretold_of_settled (.error defect) rfl⟩
  | @read depth depth' t rest front verdict ht _ ih =>
      rintro stack done s log rfl
      cases t with
      | leftParen => cases ht
      | rightParen => cases ht
      | number value =>
          obtain ⟨calls, hcalls, hforetold⟩ :=
            ih (value :: stack) done s log (Except.ok.inj ht)
          exact ⟨calls, hcalls, hforetold.number value⟩
      | operator o =>
          obtain ⟨b, a, below, rfl, hdepth⟩ := exists_operands ht
          simp only [evaluateFrom]
          rcases hc : ops.compute o a b s with ⟨⟨failure | result, ms⟩, services⟩
          · rw [ops.compute_traced hc]
            exact ⟨_, rfl, foretold_of_failed ⟨o, a, b⟩ ms failure⟩
          · rw [ops.compute_traced hc]
            obtain ⟨calls, hcalls, hforetold⟩ := ih (result :: below)
              (⟨o, a, b, result, ms⟩ :: done) services
              (log ++ [⟨⟨o, a, b⟩, ⟨.ok result, ms⟩⟩]) hdepth
            refine ⟨_, hcalls.trans ?_, hforetold.cons⟩
            exact List.append_assoc log [_] calls

/-! ## A whole sequence -/

theorem length_operators (p : Postfix) : p.operators.length = p.operatorCount := by
  induction p with
  | nil => rfl
  | cons t p ih =>
      cases t with
      | operator o =>
          rw [operatorCount, List.countP_cons_of_pos rfl]
          exact congrArg (· + 1) ih
      | number value => exact ih
      | leftParen => exact ih
      | rightParen => exact ih

end Postfix

/-- A call that got a number. -/
def Answered.Succeeded (x : Answered) : Prop := ∃ value, x.answer.outcome = .ok value

theorem Operation.succeeded_answered (x : Operation) : x.answered.Succeeded := ⟨x.result, rfl⟩

theorem Operation.succeeded_of_mem {made : List Operation} {x : Answered}
    (hx : x ∈ made.map Operation.answered) : x.Succeeded := by
  obtain ⟨y, -, rfl⟩ := List.mem_map.mp hx
  exact y.succeeded_answered

theorem Operation.operators_answered (made : List Operation) :
    (made.map Operation.answered).map (·.operator) = made.map Operation.operator := by
  rw [List.map_map]
  rfl

/-- What the answer and the calls of an evaluation have to do with the verdict of the check, where the
check gets as far as `front`. -/
structure KeepsWith (p front : Postfix) (answer : Except EvaluationError Evaluation)
    (calls : List Answered) : Prop where
  /-- The calls are for operators that the check reads, in their order. -/
  inOrder : calls.map (·.operator) <+: front.operators
  /-- A call that fails is the reason why there is no value, whatever the check says. -/
  failed : ∀ call ∈ calls, ∀ failure, call.answer.outcome = .error failure →
    answer = .error (.remote failure)
  /-- Without one, there is a call for each operator that the check reads. -/
  succeeded : (∀ call ∈ calls, call.Succeeded) → calls.map (·.operator) = front.operators
  /-- A sequence that passes the check is never malformed; if it has a value, there is an operation for
  each operator. -/
  passed : Postfix.check p = .ok () → (∀ defect, answer ≠ .error (.malformed defect)) ∧
    ∀ e, answer = .ok e →
      e.operations.length = p.operatorCount ∧ calls = e.operations.map Operation.answered
  /-- A defect that the check finds is the one that the evaluation meets, if it gets there. -/
  refused : ∀ defect, Postfix.check p = .error defect → (∀ call ∈ calls, call.Succeeded) →
    answer = .error (.malformed defect)

namespace Postfix

theorem Foretold.keepsWith {p front : Postfix} {attempt : Attempt} {calls : List Answered}
    (hfront : AtEnd (check p) → front = p) (h : Foretold front (check p) [] attempt calls) :
    KeepsWith p front attempt.answer calls := by
  cases h with
  | failed made call ms failure hprefix =>
      have hlast : (⟨call, ⟨.error failure, ms⟩⟩ : Answered) ∈
        made.map Operation.answered ++ [⟨call, ⟨.error failure, ms⟩⟩] := by simp
      have hnot : ¬ (⟨call, ⟨.error failure, ms⟩⟩ : Answered).Succeeded := fun ⟨_, h⟩ => nomatch h
      exact {
        inOrder := by rwa [List.map_append, Operation.operators_answered]
        failed := fun x hx failure' hfailure => by
          rcases List.mem_append.mp hx with hx | hx
          · obtain ⟨value, hvalue⟩ := Operation.succeeded_of_mem hx
            rw [hvalue] at hfailure
            cases hfailure
          · obtain rfl := List.mem_singleton.mp hx
            cases hfailure
            rfl
        succeeded := fun hall => absurd (hall _ hlast) hnot
        passed := fun _ => ⟨fun _ h => (nomatch h), fun _ h => (nomatch h)⟩
        refused := fun _ _ hall => absurd (hall _ hlast) hnot }
  | through made outcome hmade hverdict =>
      have hoperators : (made.map Operation.answered).map (·.operator) = front.operators :=
        (Operation.operators_answered made).trans hmade
      have hcheck : ∀ {verdict}, check p = verdict → outcome.map (fun _ => ()) = verdict :=
        hverdict.trans
      exact {
        inOrder := hoperators ▸ List.prefix_rfl
        failed := fun x hx failure hfailure => by
          obtain ⟨value, hvalue⟩ := Operation.succeeded_of_mem hx
          rw [hvalue] at hfailure
          cases hfailure
        succeeded := fun _ => hoperators
        passed := fun hok => by
          cases outcome with
          | error defect => cases hcheck hok
          | ok result =>
              refine ⟨fun _ h => (nomatch h), fun e he => ?_⟩
              obtain rfl := Except.ok.inj he
              refine ⟨?_, rfl⟩
              change made.length = _
              rw [← length_operators, ← hfront (hok ▸ .ok), ← hmade, List.length_map]
        refused := fun defect hdefect _ => by
          cases outcome with
          | ok result => cases hcheck hdefect
          | error defect' =>
              cases hcheck hdefect
              rfl }

/-- The check tells the course of an evaluation, up to a call that fails: whether it ends in a value or
in a defect and in which, and for which operators calls are made, namely those in front of the defect,
and all of them where the defect is the number of values that are left. -/
theorem check_foretells (p : Postfix) (ops : Operations σ) (s : σ) :
    let there := p.evaluate ops.traced (s, [])
    there.1 = (p.evaluate ops s).1 ∧ there.2.1 = (p.evaluate ops s).2 ∧
    ∃ front, Counted 0 p front (check p) ∧ (AtEnd (check p) → front = p) ∧
      KeepsWith p front (p.evaluate ops s).1.answer there.2.2 := by
  intro there
  obtain ⟨herased, hservices⟩ := p.evaluateFrom_traced ops [] [] (s, [])
  obtain ⟨front, hfront⟩ := exists_counted_check p
  obtain ⟨calls, hcalls, hforetold⟩ := evaluateFrom_counted ops hfront [] [] s [] rfl
  have hlog : there.2.2 = calls := hcalls
  refine ⟨herased, hservices, front, hfront, hfront.eq_of_atEnd, ?_⟩
  rw [hlog, show (p.evaluate ops s).1 = there.1 from herased.symm]
  exact hforetold.keepsWith hfront.eq_of_atEnd

end Postfix

end ExprGateway
