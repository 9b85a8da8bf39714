import ExprGateway.Proofs.Evaluation.Interleaving

/-!
# Evaluations side by side

Evaluations that share a service do not disturb each other if the services behind it are steady: if what
they answer depends on the call alone.  The invariant is what each task comes to (`Service.conclude`).  The
task's own step leaves it as it is, and the steps of others change the states of services and collector
only, which make a difference for durations at most (`conclude_untimed`).

What is on the records is kept in `Balanced`: each call was made for one of the tasks, and the reports that
are due for tasks with an answer were attempted, or wait.
-/

namespace ExprGateway

variable {σ κ : Type}

/-! ## Steady services -/

/-- What is answered depends on the call alone; how long it takes may depend on anything. -/
def Operations.Steady (ops : Operations σ) : Prop :=
  ∀ (o : Operator) (a b : Float) (s s' : σ),
    (ops.compute o a b s).1.outcome = (ops.compute o a b s').1.outcome

/-- In any two states steady services go the same way, durations aside. -/
theorem Operations.Steady.alike {ops : Operations σ} (h : ops.Steady) :
    ops.traced.Alike .untimed (fun s s' => s.2.map Answered.untimed = s'.2.map Answered.untimed)
      ops.traced := by
  rintro o a a' b b' ⟨s, calls⟩ ⟨s', calls'⟩ ha hb hcalls
  obtain rfl : a = a' := ha
  obtain rfl : b = b' := hb
  refine ⟨Likeness.sameAnswer_untimed (h o a b s s'), ?_⟩
  have hanswer : Answered.untimed ⟨⟨o, a, b⟩, (ops.compute o a b s).1⟩ =
      Answered.untimed ⟨⟨o, a, b⟩, (ops.compute o a b s').1⟩ := by
    rw [Answered.untimed, Answered.untimed, h o a b s s']
  simp only [traced, List.map_append, List.map_singleton, hanswer]
  exact congrArg (· ++ _) hcalls

namespace Service

variable (s : Service σ κ)

theorem finish_untimed (h : s.operations.Steady) (expression : String) (calls : List Answered)
    (p : Postfix) (stack : List Float) (done : List Operation) (b b' : Backends σ κ) :
    (s.finish expression calls p stack done b).1.untimed =
      (s.finish expression calls p stack done b').1.untimed := by
  have hstack : List.Forall₂ Likeness.untimed.value stack stack :=
    List.forall₂_same.mpr fun _ _ => rfl
  have hdone : List.Forall₂ Likeness.untimed.SameOperation done done :=
    List.forall₂_same.mpr fun _ _ => ⟨rfl, rfl, rfl, rfl, trivial⟩
  have hcalls : (b.services, calls).2.map Answered.untimed =
      (b'.services, calls).2.map Answered.untimed := rfl
  obtain ⟨hattempt, hcalls⟩ :=
    Postfix.evaluateFrom_alike h.alike (p := p) (fun _ _ => rfl) hstack hdone hcalls
  exact congrArg₂ (Round.mk expression) (Likeness.untimed_outcome hattempt.answer) hcalls

/-- Over steady services, what a task comes to depends on no state but for durations. -/
theorem conclude_untimed (h : s.operations.Steady) (t : Task) (b b' : Backends σ κ) :
    (s.conclude t b).1.untimed = (s.conclude t b').1.untimed := by
  obtain ⟨expression, stage, calls⟩ := t
  cases stage with
  | calling => exact s.finish_untimed h expression calls _ _ _ b b'
  | reporting => rfl
  | returned => rfl

/-- No move makes a difference to what any task comes to, durations aside. -/
theorem map_conclude_move (h : s.operations.Steady) {t t' : Traffic σ κ} (hmoved : Moved s t t')
    (b : Backends σ κ) :
    t'.tasks.map (fun x => (s.conclude x b).1.untimed) =
      t.tasks.map fun x => (s.conclude x b).1.untimed := by
  cases hmoved with
  | delivery => rfl
  | @task before behind x x' b' htasks hadvance =>
      have hx : (s.conclude x' b).1.untimed = (s.conclude x b).1.untimed :=
        calc (s.conclude x' b).1.untimed
            = (s.conclude x' b').1.untimed := s.conclude_untimed h x' b b'
          _ = (s.conclude x t.backends).1.untimed := by rw [s.conclude_eq hadvance]
          _ = (s.conclude x b).1.untimed := s.conclude_untimed h x t.backends b
      simp only [htasks, List.map_append, List.map_cons, hx]

theorem map_conclude_interleave (h : s.operations.Steady) {moves : List Move} {t t' : Traffic σ κ}
    (hrun : s.interleave moves t = some t') (b : Backends σ κ) :
    t'.tasks.map (fun x => (s.conclude x b).1.untimed) =
      t.tasks.map fun x => (s.conclude x b).1.untimed :=
  s.of_interleave (fun hmoved hkept => (s.map_conclude_move h hmoved b).trans hkept) hrun rfl

end Service

/-! ## Accounts -/

section Split

variable {α β : Type} {f : α → List β} {x x' : α} (before behind : List α)

theorem flatMap_split (h : f x' = f x) :
    (before ++ x' :: behind).flatMap f = (before ++ x :: behind).flatMap f := by
  simp only [List.flatMap_append, List.flatMap_cons, h]

/-- Where one entry of a list contributes more, the list does. -/
theorem flatMap_split_perm {more : List β} (h : f x' = f x ++ more) :
    ((before ++ x' :: behind).flatMap f).Perm ((before ++ x :: behind).flatMap f ++ more) := by
  simp only [List.flatMap_append, List.flatMap_cons, h, List.append_assoc]
  exact (List.perm_append_comm.append_left (f x)).append_left (before.flatMap f)

end Split

theorem Operations.calls_of_compute_traced {ops : Operations σ} {o : Operator} {a b : Float}
    {s services : σ × List Answered} {answer : Answer}
    (h : ops.traced.compute o a b s = (answer, services)) :
    services.2 = s.2 ++ [⟨⟨o, a, b⟩, answer⟩] := by
  cases h
  rfl

namespace Task

theorem due_resume (expression : String) (calls : List Answered) (p : Postfix) (stack : List Float)
    (done : List Operation) : (Task.mk expression (.resume p stack done) calls).due = [] := by
  have hcut := Stage.cut_resume p stack done
  generalize Stage.resume p stack done = stage at hcut ⊢
  cases hcut with
  | calling => rfl
  | reporting => rfl
  | malformed => rfl

theorem due_start (expression : String) : (start expression).due = [] := by
  rw [start, Stage.start]
  cases compile expression with
  | error defect => rfl
  | ok p => exact due_resume expression [] p [] []

end Task

/-- The records of traffic are those of its tasks: each call was made for one of them, and the reports
that are due for them are accounted for. -/
structure Balanced (s : Service σ κ) (t : Traffic (σ × List Answered) (κ × List Report)) : Prop where
  calls : t.backends.services.2.Perm (t.tasks.flatMap Task.calls)
  reports : ∃ reports : List Report, reports.Perm (t.tasks.flatMap Task.due) ∧
    Accounted s.reporter reports t.backends.collector.2 t.backends.waiting

theorem accounted_nil : ∀ reporter : Option (Reporter κ), Accounted reporter [] [] []
  | none => .disabled []
  | some ⟨c, .inline⟩ => .inline c []
  | some ⟨c, .background⟩ => .background c .rfl

/-- Once nothing waits, the attempts are the reports that were due, in some order. -/
theorem Accounted.attempts_perm {reporter : Option (Reporter κ)} {reports attempts : List Report}
    (h : Accounted reporter reports attempts []) :
    attempts.Perm (if reporter.isSome then reports else []) := by
  cases h with
  | disabled => exact .rfl
  | inline => exact .rfl
  | background c h => rwa [List.append_nil] at h

namespace Service

variable (s : Service σ κ)

theorem balanced_start (expressions : List String) {b : Backends σ κ} (hb : b.waiting = []) :
    Balanced s ⟨expressions.map Task.start, b.traced⟩ := by
  have hcalls : (expressions.map Task.start).flatMap Task.calls = [] := by
    simp [Task.start]
  have hdue : (expressions.map Task.start).flatMap Task.due = [] := by
    simp [Task.due_start]
  refine ⟨by rw [hcalls]; exact .nil, [], by rw [hdue], ?_⟩
  change Accounted s.reporter [] [] b.waiting
  rw [hb]
  exact accounted_nil s.reporter

/-- Every move keeps the balance. -/
theorem balanced_move {t t' : Traffic (σ × List Answered) (κ × List Report)}
    (hmoved : Moved s.traced t t') (h : Balanced s t) : Balanced s t' := by
  obtain ⟨hcalls, reports, hreports, haccounted⟩ := h
  cases hmoved with
  | delivery =>
      refine ⟨?_, reports, hreports, s.deliver_accounted haccounted _⟩
      rwa [s.traced.services_deliver]
  | @task before behind x x' b' htasks hadvance =>
      rw [htasks] at hcalls hreports
      -- A call is one more on either side; it is no report that is due.
      have hcalled : ∀ {call : Answered}, x'.calls = x.calls ++ [call] →
          b'.services.2 = t.backends.services.2 ++ [call] → x'.due = x.due →
          b'.collector = t.backends.collector → b'.waiting = t.backends.waiting →
          Balanced s ⟨before ++ x' :: behind, b'⟩ := by
        intro call hx hservices hdue hcollector hwaiting
        refine ⟨?_, reports, ?_, ?_⟩
        · rw [hservices]
          exact (hcalls.append_right [call]).trans (flatMap_split_perm before behind hx).symm
        · rw [flatMap_split before behind hdue]
          exact hreports
        · rw [hcollector, hwaiting]
          exact haccounted
      cases hadvance with
      | answered hstage hc =>
          refine hcalled rfl (Operations.calls_of_compute_traced hc) ?_ rfl rfl
          rw [Task.due_resume, Task.due, hstage]
      | failed hstage hc =>
          refine hcalled rfl (Operations.calls_of_compute_traced hc) ?_ rfl rfl
          rw [Task.due, Task.due, hstage]
          rfl
      | @reported e hstage =>
          have hdue : x.due = [] := by rw [Task.due, hstage]
          have hx : Task.calls ⟨x.expression, .returned (.ok e), x.calls⟩ = x.calls := rfl
          refine ⟨?_, reports ++ [⟨x.expression, e⟩], ?_, s.report_accounted haccounted _⟩
          · rw [s.traced.services_report, flatMap_split before behind hx]
            exact hcalls
          · refine (hreports.append_right _).trans (flatMap_split_perm before behind ?_).symm
            rw [hdue]
            rfl

end Service

/-! ## Side by side as alone -/

namespace Service

/-- Over steady services, evaluations that are interleaved in any way give the answers, and make the
calls, that each of them gives and makes alone, durations aside.  The collector has got one report for each
answer with a value, with the expression and the evaluation of this answer, and no other. -/
theorem interleaved_as_alone (s : Service σ κ) (h : s.operations.Steady) (expressions : List String)
    {b : Backends σ κ} (hb : b.waiting = []) {moves : List Move}
    {there : Traffic (σ × List Answered) (κ × List Report)}
    (hrun : s.traced.interleave moves ⟨expressions.map Task.start, b.traced⟩ = some there)
    (hdone : there.Complete) :
    s.interleave moves ⟨expressions.map Task.start, b⟩ = some there.erased ∧
    ∃ rounds : List Round, there.tasks = rounds.map Task.ofRound ∧
      (∀ alone : Backends (σ × List Answered) (κ × List Report),
        rounds.map Round.untimed = expressions.map fun text => (s.round text alone).1.untimed) ∧
      there.backends.services.2.Perm (rounds.flatMap Round.calls) ∧
      there.backends.collector.2.Perm
        (if s.reporter.isSome then rounds.flatMap Round.due else []) := by
  have herased := s.interleave_erased hrun
  obtain ⟨hcalls, reports, hreports, haccounted⟩ :=
    s.traced.of_interleave s.balanced_move hrun (s.balanced_start expressions hb)
  let rounds := there.tasks.map fun x => (s.conclude x b).1
  have htasks : there.tasks = rounds.map Task.ofRound := by
    rw [List.map_map]
    have hround : ∀ x ∈ there.tasks, Task.ofRound (s.conclude x b).1 = id x := fun x hx =>
      (s.ofRound_conclude (hdone.1 x hx) b).1
    exact ((List.map_congr_left hround).trans (List.map_id _)).symm
  rw [hdone.2] at haccounted
  rw [htasks, List.flatMap_map] at hcalls hreports
  refine ⟨herased, rounds, htasks, fun alone => ?_, hcalls, haccounted.attempts_perm.trans ?_⟩
  · have hkept := s.map_conclude_interleave h herased alone.erased
    have hstart : ∀ text, (s.conclude (.start text) alone.erased).1 = (s.round text alone).1 :=
      fun text => congrArg Prod.fst (s.conclude_start text alone)
    calc rounds.map Round.untimed
        = there.tasks.map fun x => (s.conclude x b).1.untimed := List.map_map
      _ = there.tasks.map fun x => (s.conclude x alone.erased).1.untimed :=
          List.map_congr_left fun x _ => s.conclude_untimed h x b alone.erased
      _ = (expressions.map Task.start).map fun x => (s.conclude x alone.erased).1.untimed := hkept
      _ = expressions.map fun text => (s.round text alone).1.untimed := by
          rw [List.map_map]
          exact List.map_congr_left fun text _ => congrArg Round.untimed (hstart text)
  · split
    · exact hreports
    · exact .rfl

/-- Two sums and a text that is malformed, one sum begun before the other and reported behind it. -/
theorem interleaved_as_alone_crossed :
    let s : Service (Unit × Unit) Unit :=
      ⟨adding.timed fun t => (0.5, t), some ⟨refusing, .background⟩⟩
    let expressions := ["1+2", "1 +", "3+4"]
    let moves : List Move := [.task 2, .task 0, .task 2, .task 0, .delivery 1, .delivery 0]
    let start : Backends (Unit × Unit) Unit := ⟨((), ()), (), []⟩
    ∃ there, s.traced.interleave moves ⟨expressions.map Task.start, start.traced⟩ = some there ∧
      there.Complete ∧ there.backends.collector.2.map Report.expression = ["1+2", "3+4"] ∧
      ∃ rounds : List Round, there.tasks = rounds.map Task.ofRound ∧
        rounds.map Round.untimed =
          expressions.map fun text => (s.round text start.traced).1.untimed := by
  intro s expressions moves start
  have hsteady : s.operations.Steady := fun _ _ _ _ _ => rfl
  have hends : ((s.traced.interleave moves ⟨expressions.map Task.start, start.traced⟩).any fun there =>
      there.Complete ∧ there.backends.collector.2.map Report.expression = ["1+2", "3+4"]) = true := by
    decide +kernel
  obtain ⟨there, hrun, hthere⟩ := (Option.any_eq_true _ _).mp hends
  obtain ⟨hdone, hattempts⟩ := of_decide_eq_true hthere
  obtain ⟨-, rounds, htasks, halone, -⟩ :=
    interleaved_as_alone s hsteady expressions rfl hrun hdone
  exact ⟨there, hrun, hdone, hattempts, rounds, htasks, halone start.traced⟩

end Service

end ExprGateway
