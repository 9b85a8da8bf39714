import ExprGateway.Proofs.Evaluation.Delivery

/-!
# Evaluations in steps

`Service.evaluate` goes from an expression to its answer at once.  Here it is cut where it waits for
others: before each call and before its report.  A `Task` is an evaluation between two cuts, `advance`
takes it to the next one, and in a `Traffic` any task may advance and any report that waits may be sent,
one at a time and in any order (`move`).

What a task comes to if nothing else moves is `Service.conclude`.  The task's own step leaves it as it is
(`conclude_eq`), and at the start it is what `Service.evaluate` gives (`conclude_start`); so a task that is
alone is an evaluation, cut or not (`exists_interleave_start`).

No run is longer than `Traffic.rank`, and none has to stop before all tasks have their answers and nothing
waits (`exists_completion`).
-/

namespace ExprGateway

variable {σ κ : Type}

/-! ## Evaluations that are cut -/

/-- Where an evaluation waits. -/
inductive Stage where
  /-- For a call.  Behind it are the rest of the sequence, the stack below the operands and the
  operations that are done, the last one first. -/
  | calling (o : Operator) (a b : Float) (rest : Postfix) (stack : List Float) (done : List Operation)
  /-- For its report to be taken over. -/
  | reporting (e : Evaluation)
  /-- For nothing. -/
  | returned (answer : Except EvaluationError Evaluation)

namespace Stage

/-- Goes through a sequence up to the next call. -/
def resume : Postfix → List Float → List Operation → Stage
  | [], stack, done =>
    match Postfix.settle stack with
    | .ok result => reporting (.of result done.reverse)
    | .error defect => returned (.error (.malformed defect))
  | .number value :: rest, stack, done => resume rest (value :: stack) done
  | .operator o :: rest, b :: a :: stack, done => calling o a b rest stack done
  | .operator o :: _, _, _ => returned (.error (.malformed (.missingOperand o)))
  | .leftParen :: _, _, _ | .rightParen :: _, _, _ =>
    returned (.error (.malformed .unbalancedParentheses))

def start (expression : String) : Stage :=
  match compile expression with
  | .error defect => returned (.error (.malformed defect))
  | .ok p => resume p [] []

/-- As many steps as can be left, a delivery included. -/
def rank : Stage → Nat
  | calling _ _ _ rest _ _ => rest.length + 3
  | reporting _ => 2
  | returned _ => 0

end Stage

/-- An evaluation on its way, with the calls that were made for it. -/
structure Task where
  expression : String
  stage : Stage
  calls : List Answered

namespace Task

def start (expression : String) : Task := ⟨expression, .start expression, []⟩

/-- A task that has come to its end. -/
def ofRound (x : Round) : Task := ⟨x.expression, .returned x.answer, x.calls⟩

def Returned (t : Task) : Prop := ∃ answer, t.stage = .returned answer

instance (t : Task) : Decidable t.Returned :=
  match h : t.stage with
  | .calling .. => isFalse fun ⟨_, h'⟩ => nomatch h.symm.trans h'
  | .reporting _ => isFalse fun ⟨_, h'⟩ => nomatch h.symm.trans h'
  | .returned answer => isTrue ⟨answer, h⟩

/-- The reports that were due for a task so far. -/
def due (t : Task) : List Report :=
  match t.stage with
  | .returned answer => reportsDue t.expression answer
  | _ => []

end Task

/-- Evaluations on one service. -/
structure Traffic (σ κ : Type) where
  tasks : List Task
  backends : Backends σ κ

/-- A step of one of them, by its place, or the delivery of one of the reports that wait. -/
inductive Move where
  | task (place : Nat)
  | delivery (place : Nat)
deriving DecidableEq

namespace Service

/-- The next step of an evaluation. -/
def advance (s : Service σ κ) (t : Task) (b : Backends σ κ) : Option (Task × Backends σ κ) :=
  match t.stage with
  | .calling o x y rest stack done =>
    let (answer, services) := s.operations.compute o x y b.services
    let stage := match answer with
      | ⟨.ok result, ms⟩ => .resume rest (result :: stack) (⟨o, x, y, result, ms⟩ :: done)
      | ⟨.error failure, _⟩ => .returned (.error (.remote failure))
    some (⟨t.expression, stage, t.calls ++ [⟨⟨o, x, y⟩, answer⟩]⟩, { b with services })
  | .reporting e =>
    some (⟨t.expression, .returned (.ok e), t.calls⟩, (s.report ⟨t.expression, e⟩ b).2)
  | .returned _ => none

def move (s : Service σ κ) (m : Move) (t : Traffic σ κ) : Option (Traffic σ κ) :=
  match m with
  | .task place =>
    t.tasks[place]?.bind fun task =>
      (s.advance task t.backends).map fun (task, b) => ⟨t.tasks.set place task, b⟩
  | .delivery place =>
    if s.reporter.isSome ∧ place < t.backends.waiting.length then
      some { t with backends := s.deliver place t.backends }
    else none

/-- Moves, one after the other. -/
def interleave (s : Service σ κ) (moves : List Move) (t : Traffic σ κ) : Option (Traffic σ κ) :=
  moves.foldlM (fun t m => s.move m t) t

end Service

/-- Every evaluation has its answer, and no report waits. -/
def Traffic.Complete (t : Traffic σ κ) : Prop :=
  (∀ task ∈ t.tasks, task.Returned) ∧ t.backends.waiting = []

instance (t : Traffic σ κ) : Decidable t.Complete :=
  inferInstanceAs (Decidable ((∀ task ∈ t.tasks, task.Returned) ∧ t.backends.waiting = []))

/-! ## What a step can do -/

/-- Where a sequence is cut: at a call, with less of it behind, or at its end, with a value or a defect. -/
inductive Stage.Cut (p : Postfix) : Stage → Prop where
  | calling {o : Operator} {a b : Float} {rest : Postfix} {stack : List Float} {done : List Operation} :
      rest.length < p.length → Cut p (.calling o a b rest stack done)
  | reporting (e : Evaluation) : Cut p (.reporting e)
  | malformed (defect : Malformed) : Cut p (.returned (.error (.malformed defect)))

theorem Stage.Cut.cons {p : Postfix} {stage : Stage} (h : Cut p stage) (token : Token) :
    Cut (token :: p) stage := by
  cases h with
  | calling hlength => exact .calling (Nat.lt_succ_of_lt hlength)
  | reporting e => exact .reporting e
  | malformed defect => exact .malformed defect

theorem Stage.cut_resume (p : Postfix) :
    ∀ (stack : List Float) (done : List Operation), Cut p (resume p stack done) := by
  induction p with
  | nil =>
      intro stack done
      rw [resume]
      cases Postfix.settle stack with
      | ok result => exact .reporting _
      | error defect => exact .malformed defect
  | cons token p ih =>
      intro stack done
      cases token with
      | number value => exact (ih (value :: stack) done).cons _
      | leftParen => exact .malformed _
      | rightParen => exact .malformed _
      | operator o =>
          match stack with
          | [] => exact .malformed _
          | [_] => exact .malformed _
          | _ :: _ :: _ => exact .calling (Nat.lt_succ_self _)

/-- The ways of `Service.advance`. -/
inductive Advanced (s : Service σ κ) (t : Task) (b : Backends σ κ) : Task → Backends σ κ → Prop where
  | answered {o : Operator} {x y result durationMs : Float} {rest : Postfix} {stack : List Float}
      {done : List Operation} {services : σ} :
      t.stage = .calling o x y rest stack done →
      s.operations.compute o x y b.services = (⟨.ok result, durationMs⟩, services) →
      Advanced s t b
        ⟨t.expression, .resume rest (result :: stack) (⟨o, x, y, result, durationMs⟩ :: done),
          t.calls ++ [⟨⟨o, x, y⟩, ⟨.ok result, durationMs⟩⟩]⟩
        { b with services }
  | failed {o : Operator} {x y durationMs : Float} {rest : Postfix} {stack : List Float}
      {done : List Operation} {failure : RemoteFailure} {services : σ} :
      t.stage = .calling o x y rest stack done →
      s.operations.compute o x y b.services = (⟨.error failure, durationMs⟩, services) →
      Advanced s t b
        ⟨t.expression, .returned (.error (.remote failure)),
          t.calls ++ [⟨⟨o, x, y⟩, ⟨.error failure, durationMs⟩⟩]⟩
        { b with services }
  | reported {e : Evaluation} :
      t.stage = .reporting e →
      Advanced s t b ⟨t.expression, .returned (.ok e), t.calls⟩ (s.report ⟨t.expression, e⟩ b).2

/-- The ways of `Service.move`. -/
inductive Moved (s : Service σ κ) (t : Traffic σ κ) : Traffic σ κ → Prop where
  | task {before behind : List Task} {x x' : Task} {b : Backends σ κ} :
      t.tasks = before ++ x :: behind → Advanced s x t.backends x' b →
      Moved s t ⟨before ++ x' :: behind, b⟩
  | delivery {place : Nat} :
      s.reporter.isSome → place < t.backends.waiting.length →
      Moved s t ⟨t.tasks, s.deliver place t.backends⟩

namespace Service

variable (s : Service σ κ)

theorem advanced_of_advance {t t' : Task} {b b' : Backends σ κ} (h : s.advance t b = some (t', b')) :
    Advanced s t b t' b' := by
  unfold advance at h
  split at h
  next o x y rest stack done hstage =>
    match hc : s.operations.compute o x y b.services with
    | (⟨.ok result, ms⟩, services) =>
        rw [hc] at h
        cases h
        exact .answered hstage hc
    | (⟨.error failure, ms⟩, services) =>
        rw [hc] at h
        cases h
        exact .failed hstage hc
  next e hstage =>
    cases h
    exact .reported hstage
  next => cases h

theorem exists_advance {t : Task} (h : ¬ t.Returned) (b : Backends σ κ) :
    ∃ t' b', s.advance t b = some (t', b') := by
  unfold advance
  split
  next => exact ⟨_, _, rfl⟩
  next => exact ⟨_, _, rfl⟩
  next answer hstage => exact absurd ⟨answer, hstage⟩ h

theorem moved_of_move {m : Move} {t t' : Traffic σ κ} (h : s.move m t = some t') : Moved s t t' := by
  cases m with
  | task place =>
      obtain ⟨x, hx, h⟩ := Option.bind_eq_some_iff.mp h
      obtain ⟨⟨x', b⟩, hadvance, rfl⟩ := Option.map_eq_some_iff.mp h
      obtain ⟨hplace, rfl⟩ := List.getElem?_eq_some_iff.mp hx
      obtain ⟨before, behind, htasks, -, hset⟩ : ∃ before behind,
          t.tasks = before ++ t.tasks[place] :: behind ∧ before.length = place ∧
            t.tasks.set place x' = before ++ x' :: behind := List.exists_of_set hplace
      dsimp only
      rw [hset]
      exact .task htasks (s.advanced_of_advance hadvance)
  | delivery place =>
      rw [move] at h
      split at h
      next hguard =>
        cases h
        exact .delivery hguard.1 hguard.2
      next => cases h

end Service

/-! ## What a task comes to -/

namespace Service

variable (s : Service σ κ)

/-- Hands over the report of an evaluation that has its answer, if one is due. -/
def handOver (x : Round) (b : Backends σ κ) : Backends σ κ :=
  match x.answer with
  | .ok e => (s.report ⟨x.expression, e⟩ b).2
  | .error _ => b

/-- Goes through a sequence to its end and hands over the report. -/
def finish (expression : String) (calls : List Answered) (p : Postfix) (stack : List Float)
    (done : List Operation) (b : Backends σ κ) : Round × Backends σ κ :=
  let (attempt, services, calls) :=
    Postfix.evaluateFrom s.operations.traced p stack done (b.services, calls)
  let x : Round := ⟨expression, attempt.answer, calls⟩
  (x, s.handOver x { b with services })

/-- What a task comes to if nothing else moves, and what it leaves behind. -/
def conclude (t : Task) (b : Backends σ κ) : Round × Backends σ κ :=
  match t.stage with
  | .calling o x y rest stack done =>
    s.finish t.expression t.calls (.operator o :: rest) (y :: x :: stack) done b
  | .reporting e =>
    let x : Round := ⟨t.expression, .ok e, t.calls⟩
    (x, s.handOver x b)
  | .returned answer => (⟨t.expression, answer, t.calls⟩, b)

/-- A task that has come to its end is what it comes to. -/
theorem ofRound_conclude {t : Task} (h : t.Returned) (b : Backends σ κ) :
    Task.ofRound (s.conclude t b).1 = t ∧ (s.conclude t b).2 = b := by
  obtain ⟨answer, hstage⟩ := h
  obtain ⟨expression, stage, calls⟩ := t
  obtain rfl : stage = .returned answer := hstage
  exact ⟨rfl, rfl⟩

/-- Going through a sequence up to the next call loses nothing of what it comes to. -/
theorem conclude_resume (expression : String) (calls : List Answered) (p : Postfix) (b : Backends σ κ) :
    ∀ (stack : List Float) (done : List Operation),
      s.conclude ⟨expression, .resume p stack done, calls⟩ b =
        s.finish expression calls p stack done b := by
  induction p with
  | nil =>
      intro stack done
      match stack with
      | [] => rfl
      | [_] => rfl
      | _ :: _ :: _ => rfl
  | cons token p ih =>
      intro stack done
      cases token with
      | number value => exact ih (value :: stack) done
      | leftParen => rfl
      | rightParen => rfl
      | operator o =>
          match stack with
          | [] => rfl
          | [_] => rfl
          | _ :: _ :: _ => rfl

/-- A step of a task leaves what it comes to as it is. -/
theorem conclude_eq {t t' : Task} {b b' : Backends σ κ} (h : Advanced s t b t' b') :
    s.conclude t' b' = s.conclude t b := by
  cases h with
  | answered hstage hc =>
      rw [conclude_resume]
      simp only [conclude, hstage, finish, Postfix.evaluateFrom, s.operations.compute_traced hc]
  | failed hstage hc =>
      simp only [conclude, hstage, finish, Postfix.evaluateFrom, s.operations.compute_traced hc]
      rfl
  | reported hstage =>
      simp only [conclude, hstage]
      rfl

/-- An evaluation that has not begun comes to what the service makes of it. -/
theorem conclude_start (expression : String) (b : Backends (σ × List Answered) (κ × List Report)) :
    s.conclude (.start expression) b.erased =
      ((s.round expression b).1, (s.round expression b).2.erased) := by
  let fresh : Backends (σ × List Answered) (κ × List Report) :=
    { b with services := (b.services.1, []) }
  change s.conclude ⟨expression, .start expression, []⟩ fresh.erased =
    (⟨expression, (s.traced.evaluate expression fresh).1.answer,
      (s.traced.evaluate expression fresh).2.services.2⟩, (s.traced.evaluate expression fresh).2.erased)
  rw [Stage.start]
  cases hp : compile expression with
  | error defect =>
      rw [s.traced.evaluate_of_malformed hp]
      rfl
  | ok p =>
      dsimp only
      rw [conclude_resume, finish]
      match ht : p.evaluate s.traced.operations fresh.services with
      | (attempt, services) =>
          have hfinish : Postfix.evaluateFrom s.operations.traced p [] [] (fresh.erased.services, []) =
              (attempt, services) := ht
          rw [hfinish]
          cases ha : attempt.answer with
          | error error =>
              rw [s.traced.evaluate_of_failed hp ht ha]
              simp only [handOver, ha]
              rfl
          | ok e =>
              obtain ⟨-, hreport⟩ := s.report_traced ⟨expression, e⟩ { fresh with services }
              have hcalls := s.traced.services_report { fresh with services } ⟨expression, e⟩
              rw [s.traced.evaluate_of_ok hp ht ha]
              simp only [handOver, ha, hreport, hcalls]
              rfl

end Service

/-! ## Runs -/

namespace Service

variable (s : Service σ κ)

theorem interleave_cons {m : Move} {moves : List Move} {t t'' : Traffic σ κ}
    (h : s.interleave (m :: moves) t = some t'') :
    ∃ t', Moved s t t' ∧ s.interleave moves t' = some t'' := by
  rw [interleave, List.foldlM_cons] at h
  obtain ⟨t', hmove, h⟩ := Option.bind_eq_some_iff.mp h
  exact ⟨t', s.moved_of_move hmove, h⟩

/-- What every move keeps, a run keeps. -/
theorem of_interleave {P : Traffic σ κ → Prop} (hstep : ∀ {t t'}, Moved s t t' → P t → P t')
    {moves : List Move} : ∀ {t t' : Traffic σ κ}, s.interleave moves t = some t' → P t → P t' := by
  induction moves with
  | nil =>
      intro t t' h hp
      obtain rfl := Option.some.inj h
      exact hp
  | cons m moves ih =>
      intro t t'' h hp
      obtain ⟨t', hmoved, hrest⟩ := s.interleave_cons h
      exact ih hrest (hstep hmoved hp)

end Service

/-! ## Progress -/

theorem Stage.rank_resume (p : Postfix) (stack : List Float) (done : List Operation) :
    (resume p stack done).rank ≤ p.length + 2 := by
  have hcut := cut_resume p stack done
  generalize resume p stack done = stage at hcut ⊢
  cases hcut with
  | calling hlength => exact Nat.add_le_add_right hlength 2
  | reporting => exact Nat.le_add_left 2 _
  | malformed => exact Nat.zero_le _

/-- The ranks of tasks, added up. -/
def Task.totalRank : List Task → Nat
  | [] => 0
  | x :: xs => x.stage.rank + totalRank xs

theorem Task.totalRank_split (before behind : List Task) (x : Task) :
    totalRank (before ++ x :: behind) = x.stage.rank + totalRank (before ++ behind) := by
  induction before with
  | nil => rfl
  | cons y before ih =>
      rw [List.cons_append, List.cons_append, totalRank, totalRank, ih]
      omega

/-- As many moves as can be left. -/
def Traffic.rank (t : Traffic σ κ) : Nat := Task.totalRank t.tasks + t.backends.waiting.length

namespace Service

variable (s : Service σ κ)

theorem length_waiting_report (report : Report) (b : Backends σ κ) :
    (s.report report b).2.waiting.length ≤ b.waiting.length + 1 := by
  obtain ⟨operations, reporter⟩ := s
  match reporter with
  | none => exact Nat.le_succ _
  | some ⟨c, .inline⟩ => exact Nat.le_succ _
  | some ⟨c, .background⟩ => exact Nat.le_of_eq (List.length_append)

theorem length_waiting_deliver {b : Backends σ κ} {place : Nat} (hreporter : s.reporter.isSome)
    (hplace : place < b.waiting.length) :
    (s.deliver place b).waiting.length < b.waiting.length := by
  obtain ⟨r, hr⟩ := Option.isSome_iff_exists.mp hreporter
  have hdeliver : (s.deliver place b).waiting = b.waiting.eraseIdx place := by
    simp only [deliver, hr, List.getElem?_eq_getElem hplace]
    rfl
  rw [hdeliver, List.length_eraseIdx_of_lt hplace]
  omega

theorem rank_advance {x x' : Task} {b b' : Backends σ κ} (h : Advanced s x b x' b') :
    x'.stage.rank + b'.waiting.length < x.stage.rank + b.waiting.length := by
  cases h with
  | @answered o a c result ms rest stack done services hstage =>
      have hrank : x.stage.rank = rest.length + 3 := congrArg Stage.rank hstage
      have hresume := Stage.rank_resume rest (result :: stack) (⟨o, a, c, result, ms⟩ :: done)
      dsimp only
      omega
  | @failed _ _ _ _ rest _ _ _ _ hstage =>
      have hrank : x.stage.rank = rest.length + 3 := congrArg Stage.rank hstage
      rw [hrank]
      show 0 + b.waiting.length < rest.length + 3 + b.waiting.length
      omega
  | @reported e hstage =>
      have hrank : x.stage.rank = 2 := congrArg Stage.rank hstage
      have hwaiting := s.length_waiting_report ⟨x.expression, e⟩ b
      rw [hrank]
      show 0 + (s.report ⟨x.expression, e⟩ b).2.waiting.length < 2 + b.waiting.length
      omega

theorem rank_move {t t' : Traffic σ κ} (h : Moved s t t') : t'.rank < t.rank := by
  cases h with
  | delivery hreporter hplace =>
      exact Nat.add_lt_add_left (s.length_waiting_deliver hreporter hplace) _
  | task htasks hadvance =>
      have hlt := s.rank_advance hadvance
      simp only [Traffic.rank, htasks, Task.totalRank_split]
      omega

/-- Without a reporter nothing comes to wait. -/
theorem waiting_move (hnone : s.reporter = none) {t t' : Traffic σ κ} (h : Moved s t t') :
    t'.backends.waiting = t.backends.waiting := by
  cases h with
  | delivery hreporter =>
      rw [hnone] at hreporter
      cases hreporter
  | task _ hadvance =>
      cases hadvance with
      | answered => rfl
      | failed => rfl
      | reported => simp only [report, hnone]

/-- As long as traffic is not complete, there is a move. -/
theorem exists_move {t : Traffic σ κ} (hw : s.reporter = none → t.backends.waiting = [])
    (h : ¬ t.Complete) : ∃ m t', s.move m t = some t' := by
  by_cases htasks : ∀ x ∈ t.tasks, x.Returned
  · have hwaiting : t.backends.waiting ≠ [] := fun hnil => h ⟨htasks, hnil⟩
    have hreporter : s.reporter.isSome := Option.isSome_iff_ne_none.mpr fun hnone => hwaiting (hw hnone)
    exact ⟨.delivery 0, _, if_pos ⟨hreporter, List.length_pos_of_ne_nil hwaiting⟩⟩
  · obtain ⟨x, hx⟩ := Classical.not_forall.mp htasks
    obtain ⟨hmem, hwaits⟩ := Classical.not_imp.mp hx
    obtain ⟨place, hplace⟩ := List.getElem?_of_mem hmem
    obtain ⟨x', b, hadvance⟩ := s.exists_advance hwaits t.backends
    refine ⟨.task place, ⟨t.tasks.set place x', b⟩, ?_⟩
    rw [move, hplace, Option.bind_some, hadvance]
    rfl

/-- No run makes more moves than the rank says. -/
theorem length_le_rank {moves : List Move} :
    ∀ {t t' : Traffic σ κ}, s.interleave moves t = some t' → moves.length + t'.rank ≤ t.rank := by
  induction moves with
  | nil =>
      intro t t' h
      obtain rfl := Option.some.inj h
      exact Nat.le_of_eq (Nat.zero_add _)
  | cons m moves ih =>
      intro t t'' h
      obtain ⟨t', hmoved, hrest⟩ := s.interleave_cons h
      have hlt := s.rank_move hmoved
      have hle := ih hrest
      rw [List.length_cons]
      omega

/-- Every run can be brought to completion. -/
theorem exists_completion (t : Traffic σ κ) (hw : s.reporter = none → t.backends.waiting = []) :
    ∃ moves t', s.interleave moves t = some t' ∧ t'.Complete := by
  by_cases hdone : t.Complete
  · exact ⟨[], t, rfl, hdone⟩
  · obtain ⟨m, t', hmove⟩ := s.exists_move hw hdone
    have hmoved := s.moved_of_move hmove
    have hlt := s.rank_move hmoved
    obtain ⟨moves, t'', hrest, hcomplete⟩ :=
      exists_completion t' fun hnone => (s.waiting_move hnone hmoved).trans (hw hnone)
    refine ⟨m :: moves, t'', ?_, hcomplete⟩
    rw [interleave, List.foldlM_cons, hmove]
    exact hrest
termination_by t.rank

/-- A task that is alone comes to what it comes to, by steps of its own. -/
theorem exists_interleave_alone (x : Task) (b : Backends σ κ) :
    ∃ n, s.interleave (List.replicate n (.task 0)) ⟨[x], b⟩ =
      some ⟨[.ofRound (s.conclude x b).1], (s.conclude x b).2⟩ := by
  by_cases hdone : x.Returned
  · obtain ⟨hround, hb⟩ := s.ofRound_conclude hdone b
    exact ⟨0, by rw [hround, hb]; rfl⟩
  · obtain ⟨x', b', hstep⟩ := s.exists_advance hdone b
    have hadvance := s.advanced_of_advance hstep
    have hlt := s.rank_advance hadvance
    obtain ⟨n, hn⟩ := exists_interleave_alone x' b'
    have hmove : s.move (.task 0) ⟨[x], b⟩ = some ⟨[x'], b'⟩ := by
      simp only [move, List.getElem?_cons_zero, Option.bind_some, hstep]
      rfl
    refine ⟨n + 1, ?_⟩
    rw [List.replicate_succ, interleave, List.foldlM_cons, hmove, ← s.conclude_eq hadvance]
    exact hn
termination_by x.stage.rank + b.waiting.length

/-- Cut or not, an evaluation that is alone is the same. -/
theorem exists_interleave_start (expression : String)
    (b : Backends (σ × List Answered) (κ × List Report)) :
    ∃ n, s.interleave (List.replicate n (.task 0)) ⟨[.start expression], b.erased⟩ =
      some ⟨[.ofRound (s.round expression b).1], (s.round expression b).2.erased⟩ := by
  obtain ⟨n, hn⟩ := s.exists_interleave_alone (.start expression) b.erased
  rw [s.conclude_start] at hn
  exact ⟨n, hn⟩

end Service

/-! ## Records -/

/-- Traffic without the records. -/
def Traffic.erased (t : Traffic (σ × List Answered) (κ × List Report)) : Traffic σ κ :=
  ⟨t.tasks, t.backends.erased⟩

namespace Service

variable (s : Service σ κ)

theorem advance_erased (x : Task) (b : Backends (σ × List Answered) (κ × List Report)) :
    (s.traced.advance x b).map (fun there => (there.1, there.2.erased)) = s.advance x b.erased := by
  unfold advance
  split
  next => rfl
  next e _ =>
    exact congrArg (fun b => some (Task.mk x.expression (.returned (.ok e)) x.calls, b))
      (s.report_traced ⟨x.expression, e⟩ b).2
  next => rfl

theorem move_erased (m : Move) (t : Traffic (σ × List Answered) (κ × List Report)) :
    (s.traced.move m t).map Traffic.erased = s.move m t.erased := by
  cases m with
  | task place =>
      rw [move, move]
      change _ = t.tasks[place]?.bind _
      cases t.tasks[place]? with
      | none => rfl
      | some x =>
          rw [Option.bind_some, Option.bind_some, Option.map_map]
          change _ = (s.advance x t.backends.erased).map _
          rw [← s.advance_erased, Option.map_map]
          rfl
  | delivery place =>
      rw [move, move]
      have hreporter : s.traced.reporter.isSome = s.reporter.isSome := Option.isSome_map
      rw [hreporter]
      change _ = if s.reporter.isSome ∧ place < t.backends.waiting.length then _ else none
      split
      next => exact congrArg (fun b => some (Traffic.mk t.tasks b)) (s.deliver_traced place t.backends)
      next => rfl

/-- The records of a run can be erased. -/
theorem interleave_erased {moves : List Move} :
    ∀ {t t' : Traffic (σ × List Answered) (κ × List Report)},
      s.traced.interleave moves t = some t' → s.interleave moves t.erased = some t'.erased := by
  induction moves with
  | nil =>
      intro t t' h
      exact congrArg (Option.map Traffic.erased) h
  | cons m moves ih =>
      intro t t'' h
      rw [interleave, List.foldlM_cons] at h
      obtain ⟨t', hmove, hrest⟩ := Option.bind_eq_some_iff.mp h
      have herased := s.move_erased m t
      rw [hmove] at herased
      rw [interleave, List.foldlM_cons, ← herased]
      exact ih hrest

end Service

end ExprGateway
