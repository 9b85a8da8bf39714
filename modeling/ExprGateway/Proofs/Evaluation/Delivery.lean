import ExprGateway.Proofs.Evaluation.Likeness
import Mathlib.Data.List.Perm.Basic

/-!
# Reports beside the answers

A service evaluates one expression after the other.  Between them, reports that were taken over to be
sent in the background are sent, at any time and in any order; `Happening` is one or the other, and
`Service.run` goes through a list of them.  A delivery acts on the collector and on what waits, and an
evaluation, before its report, on the services alone; so a delivery in the middle of an evaluation is
one before it.

Two things hold of a run.  Its answers and calls are those of every other run of the same expressions
over the same port, whoever gets the reports and whenever (`run_untimed`).  And each report is
accounted for: it was attempted, or it waits.  `Accounted` is what a step keeps, an evaluation by the
courses of `Service.evaluate` and a delivery because it moves a report from one place to the other.
-/

namespace ExprGateway

variable {σ σ' ω ω' κ κ' : Type}

/-! ## Times aside -/

/-- The operations as a machine that takes no time. -/
structure Port (σ : Type) where
  compute : Operator → Float → Float → σ → Except RemoteFailure Float × σ

/-- The operations of a port, with a clock that says how long each call takes. -/
def Port.timed (port : Port σ) (clock : ω → Float × ω) : Operations (σ × ω) where
  compute o a b s :=
    let (outcome, services) := port.compute o a b s.1
    let (durationMs, time) := clock s.2
    (⟨outcome, durationMs⟩, services, time)

def Operation.untimed (x : Operation) : Operation := { x with durationMs := 0 }

def Evaluation.untimed (e : Evaluation) : Evaluation :=
  ⟨e.result, e.operations.map Operation.untimed, 0⟩

def Answered.untimed (x : Answered) : Answered := { x with answer := ⟨x.answer.outcome, 0⟩ }

/-- Alike is equal but for durations. -/
def Likeness.untimed : Likeness := ⟨Eq, fun _ _ => True, Eq⟩

namespace Likeness

theorem sameAnswer_untimed {x x' : Answer} (h : x.outcome = x'.outcome) :
    untimed.SameAnswer x x' := by
  obtain ⟨outcome, ms⟩ := x
  obtain ⟨outcome', ms'⟩ := x'
  obtain rfl : outcome = outcome' := h
  cases outcome with
  | ok x => exact .ok rfl trivial
  | error f => exact .error rfl

theorem untimed_operation {x x' : Operation} (h : untimed.SameOperation x x') :
    x.untimed = x'.untimed := by
  obtain ⟨o, a, b, r, ms⟩ := x
  obtain ⟨o', a', b', r', ms'⟩ := x'
  obtain ⟨rfl, rfl, rfl, rfl, -⟩ := h
  rfl

theorem untimed_operations {xs xs' : List Operation}
    (h : List.Forall₂ untimed.SameOperation xs xs') :
    xs.map Operation.untimed = xs'.map Operation.untimed := by
  rw [← List.forall₂_eq_eq_eq, List.forall₂_map_left_iff, List.forall₂_map_right_iff]
  exact h.imp fun _ _ => untimed_operation

theorem untimed_outcome {t t' : Except EvaluationError Evaluation} (h : untimed.SameOutcome t t') :
    t.map Evaluation.untimed = t'.map Evaluation.untimed := by
  cases h with
  | ok hdone hx =>
      refine congrArg Except.ok ?_
      rw [Evaluation.untimed, Evaluation.untimed, Evaluation.of, Evaluation.of,
        untimed_operations hdone, show _ = _ from hx]
  | error he =>
      cases he with
      | malformed defect => rfl
      | remote hf => rw [show _ = _ from hf]

end Likeness

/-- Over one port, two clocks make no difference but for durations. -/
theorem Port.timed_alike (port : Port σ) (clock : ω → Float × ω) (clock' : ω' → Float × ω') :
    (port.timed clock).traced.Alike .untimed
      (fun s s' => s.1.1 = s'.1.1 ∧ s.2.map Answered.untimed = s'.2.map Answered.untimed)
      (port.timed clock').traced := by
  rintro o a a' b b' ⟨⟨s, time⟩, calls⟩ ⟨⟨s', time'⟩, calls'⟩ ha hb ⟨hs, hcalls⟩
  obtain rfl : a = a' := ha
  obtain rfl : b = b' := hb
  obtain rfl : s = s' := hs
  refine ⟨Likeness.sameAnswer_untimed rfl, rfl, ?_⟩
  simp only [Operations.traced, timed, List.map_append, hcalls]
  rfl

/-! ## Runs -/

/-- What happens to a service. -/
inductive Happening where
  /-- An expression is evaluated. -/
  | expression (text : String)
  /-- One of the reports that wait is sent, by its place among them. -/
  | delivery (place : Nat)
deriving DecidableEq

def Happening.expression? : Happening → Option String
  | expression text => some text
  | delivery _ => none

/-- An expression of a run, with its answer and the calls that were made for it. -/
structure Round where
  expression : String
  answer : Except EvaluationError Evaluation
  calls : List Answered

def Round.untimed (x : Round) : Round :=
  ⟨x.expression, x.answer.map Evaluation.untimed, x.calls.map Answered.untimed⟩

/-- The reports that are due for an answer: one if there is a value. -/
def reportsDue (expression : String) : Except EvaluationError Evaluation → List Report
  | .ok e => [⟨expression, e⟩]
  | .error _ => []

def Round.due (x : Round) : List Report := reportsDue x.expression x.answer

namespace Service

/-- Sends one of the reports that wait. -/
def deliver (s : Service σ κ) (place : Nat) (b : Backends σ κ) : Backends σ κ :=
  match s.reporter, b.waiting[place]? with
  | some r, some report => (r.send report { b with waiting := b.waiting.eraseIdx place }).2
  | _, _ => b

/-- Evaluates an expression, with a record of calls that is empty before it. -/
def round (s : Service σ κ) (expression : String)
    (b : Backends (σ × List Answered) (κ × List Report)) :
    Round × Backends (σ × List Answered) (κ × List Report) :=
  let (turn, b) := s.traced.evaluate expression { b with services := (b.services.1, []) }
  (⟨expression, turn.answer, b.services.2⟩, b)

/-- Goes through a list of happenings; the attempts are on the record of the collector. -/
def run (s : Service σ κ) : List Happening → Backends (σ × List Answered) (κ × List Report) →
    List Round × Backends (σ × List Answered) (κ × List Report)
  | [], b => ([], b)
  | .expression text :: rest, b =>
    let (round, b) := s.round text b
    let (rounds, b) := s.run rest b
    (round :: rounds, b)
  | .delivery place :: rest, b => s.run rest (s.traced.deliver place b)

/-- The same without records. -/
def answers (s : Service σ κ) : List Happening → Backends σ κ →
    List (Except EvaluationError Evaluation) × Backends σ κ
  | [], b => ([], b)
  | .expression text :: rest, b =>
    let (turn, b) := s.evaluate text b
    let (others, b) := s.answers rest b
    (turn.answer :: others, b)
  | .delivery place :: rest, b => s.answers rest (s.deliver place b)

theorem deliver_traced (s : Service σ κ) (place : Nat)
    (b : Backends (σ × List Answered) (κ × List Report)) :
    (s.traced.deliver place b).erased = s.deliver place b.erased := by
  obtain ⟨operations, reporter⟩ := s
  obtain ⟨services, collector, waiting⟩ := b
  simp only [deliver, traced, Backends.erased]
  match reporter, waiting[place]? with
  | none, _ => rfl
  | some r, none => rfl
  | some r, some report => rfl

/-- The records of a run can be erased. -/
theorem run_erased (s : Service σ κ) (script : List Happening) :
    ∀ b, (s.run script b).1.map Round.answer = (s.answers script b.erased).1 ∧
      (s.run script b).2.erased = (s.answers script b.erased).2 := by
  induction script with
  | nil => exact fun _ => ⟨rfl, rfl⟩
  | cons h script ih =>
      intro b
      cases h with
      | delivery place =>
          simp only [run, answers, ← s.deliver_traced]
          exact ih _
      | expression text =>
          obtain ⟨hanswer, hb⟩ := s.evaluate_traced text { b with services := (b.services.1, []) }
          obtain ⟨hanswers, hend⟩ := ih (s.round text b).2
          change (s.round text b).2.erased = _ at hb
          rw [hb] at hanswers hend
          exact ⟨congrArg₂ List.cons (congrArg Turn.answer hanswer) hanswers, hend⟩

/-! ## Answers and calls -/

theorem services_deliver (s : Service σ κ) (place : Nat) (b : Backends σ κ) :
    (s.deliver place b).services = b.services := by
  unfold deliver
  split <;> rfl

theorem expression_run (s : Service σ κ) (script : List Happening) :
    ∀ b, (s.run script b).1.map Round.expression = script.filterMap Happening.expression? := by
  induction script with
  | nil => exact fun _ => rfl
  | cons h script ih =>
      intro b
      cases h with
      | delivery place => exact ih _
      | expression text => exact congrArg (text :: ·) (ih _)

section Untimed

variable (port : Port σ) (clock : ω → Float × ω) (clock' : ω' → Float × ω')
  (reporter : Option (Reporter κ)) (reporter' : Option (Reporter κ'))

theorem round_untimed (expression : String)
    {b : Backends ((σ × ω) × List Answered) (κ × List Report)}
    {b' : Backends ((σ × ω') × List Answered) (κ' × List Report)}
    (h : b.services.1.1 = b'.services.1.1) :
    let there := (Service.mk (port.timed clock) reporter).round expression b
    let there' := (Service.mk (port.timed clock') reporter').round expression b'
    there.1.untimed = there'.1.untimed ∧ there.2.services.1.1 = there'.2.services.1.1 := by
  intro there there'
  obtain ⟨hanswer, hservices, hcalls⟩ := answer_alike
    (Service.mk (port.timed clock) reporter).traced { b with services := (b.services.1, []) }
    (Service.mk (port.timed clock') reporter').traced { b' with services := (b'.services.1, []) }
    (port.timed_alike clock clock') (fun _ _ => rfl) ⟨h, rfl⟩ expression
  refine ⟨?_, hservices⟩
  change Round.mk _ _ _ = Round.mk _ _ _
  exact congrArg₂ (Round.mk expression) (Likeness.untimed_outcome hanswer) hcalls

/-- A run goes as the one of its expressions alone, over any clock and with any reporter. -/
theorem run_untimed (script : List Happening) :
    ∀ (b : Backends ((σ × ω) × List Answered) (κ × List Report))
      (b' : Backends ((σ × ω') × List Answered) (κ' × List Report)),
      b.services.1.1 = b'.services.1.1 →
      ((Service.mk (port.timed clock) reporter).run script b).1.map Round.untimed =
        ((Service.mk (port.timed clock') reporter').run
          ((script.filterMap Happening.expression?).map .expression) b').1.map Round.untimed := by
  induction script with
  | nil => exact fun _ _ _ => rfl
  | cons h script ih =>
      intro b b' hservices
      cases h with
      | delivery place =>
          exact ih _ b' ((congrArg (·.1.1) (services_deliver _ place b)).trans hservices)
      | expression text =>
          obtain ⟨hround, hservices⟩ :=
            round_untimed port clock clock' reporter reporter' text hservices
          exact congrArg₂ List.cons hround (ih _ _ hservices)

end Untimed

end Service

/-! ## Accounts -/

/-- The reports that are due are accounted for by the attempts that were made and by what waits: the
three lists of reports are these, in this order. -/
inductive Accounted : Option (Reporter κ) → List Report → List Report → List Report → Prop where
  | disabled (reports : List Report) : Accounted none reports [] []
  | inline (c : Collector κ) (reports : List Report) : Accounted (some ⟨c, .inline⟩) reports reports []
  | background (c : Collector κ) {reports attempts waiting : List Report} :
      (attempts ++ waiting).Perm reports →
      Accounted (some ⟨c, .background⟩) reports attempts waiting

namespace Service

variable (s : Service σ κ) {reports : List Report}
  {b : Backends (σ × List Answered) (κ × List Report)}

/-- A report that is handed over is accounted for. -/
theorem report_accounted (h : Accounted s.reporter reports b.collector.2 b.waiting) (report : Report) :
    Accounted s.reporter (reports ++ [report]) (s.traced.report report b).2.collector.2
      (s.traced.report report b).2.waiting := by
  obtain ⟨operations, reporter⟩ := s
  obtain ⟨services, ⟨collector, attempts⟩, waiting⟩ := b
  cases h with
  | disabled => exact .disabled _
  | inline c => exact .inline c _
  | background c h =>
      refine .background c ?_
      change (attempts ++ (waiting ++ [report])).Perm _
      rw [← List.append_assoc]
      exact h.append_right [report]

/-- A delivery leaves the account as it is. -/
theorem deliver_accounted (h : Accounted s.reporter reports b.collector.2 b.waiting) (place : Nat) :
    Accounted s.reporter reports (s.traced.deliver place b).collector.2
      (s.traced.deliver place b).waiting := by
  obtain ⟨operations, reporter⟩ := s
  obtain ⟨services, ⟨collector, attempts⟩, waiting⟩ := b
  cases h with
  | disabled => exact .disabled _
  | inline c => exact .inline c _
  | background c h =>
      simp only [deliver, traced, Option.map_some]
      cases hreport : waiting[place]? with
      | none => exact .background c h
      | some report =>
          refine .background c (.trans ?_ h)
          change (attempts ++ [report] ++ waiting.eraseIdx place).Perm _
          rw [List.append_assoc]
          obtain ⟨hplace, rfl⟩ := List.getElem?_eq_some_iff.mp hreport
          exact (List.getElem_cons_eraseIdx_perm hplace).append_left attempts

/-- An evaluation accounts for its own report, if one is due. -/
theorem evaluate_accounted (h : Accounted s.reporter reports b.collector.2 b.waiting)
    (expression : String) :
    let there := s.traced.evaluate expression b
    Accounted s.reporter (reports ++ reportsDue expression there.1.answer) there.2.collector.2
      there.2.waiting := by
  intro there
  cases hp : compile expression with
  | error defect =>
      simp only [there, s.traced.evaluate_of_malformed hp, reportsDue, List.append_nil]
      exact h
  | ok p =>
      match ht : p.evaluate s.traced.operations b.services with
      | (attempt, services) =>
          cases ha : attempt.answer with
          | error e =>
              simp only [there, s.traced.evaluate_of_failed hp ht ha, reportsDue, List.append_nil]
              exact h
          | ok e =>
              simp only [there, s.traced.evaluate_of_ok hp ht ha, reportsDue]
              exact s.report_accounted (b := { b with services }) h ⟨expression, e⟩

/-- A run accounts for every report that is due. -/
theorem run_accounted (script : List Happening) :
    ∀ {reports : List Report} {b : Backends (σ × List Answered) (κ × List Report)},
      Accounted s.reporter reports b.collector.2 b.waiting →
      Accounted s.reporter (reports ++ (s.run script b).1.flatMap Round.due)
        (s.run script b).2.collector.2 (s.run script b).2.waiting := by
  induction script with
  | nil =>
      intro reports b h
      rw [run, List.flatMap_nil, List.append_nil]
      exact h
  | cons happening script ih =>
      intro reports b h
      cases happening with
      | delivery place => exact ih (s.deliver_accounted h place)
      | expression text =>
          have hround := s.evaluate_accounted
            (b := { b with services := (b.services.1, []) }) h text
          have hrest := ih hround
          rw [List.append_assoc] at hrest
          exact hrest

/-- Where reports are sent one after the other, each is an attempt. -/
theorem sendAll_traced (r : Reporter κ) (waiting : List Report) :
    ∀ b : Backends (σ × List Answered) (κ × List Report),
      (r.traced.sendAll waiting b).2.collector.2 = b.collector.2 ++ waiting ∧
      (r.traced.sendAll waiting b).2.waiting = b.waiting := by
  induction waiting with
  | nil => exact fun b => ⟨(List.append_nil _).symm, rfl⟩
  | cons report waiting ih =>
      intro b
      obtain ⟨hattempts, hwaiting⟩ := ih (r.traced.send report b).2
      refine ⟨hattempts.trans ?_, hwaiting⟩
      exact List.append_assoc b.collector.2 [report] waiting

/-- Once the tasks have ended nothing waits, and the attempts are the reports that were due. -/
theorem settle_accounted (h : Accounted s.reporter reports b.collector.2 b.waiting) :
    Accounted s.reporter reports (s.traced.settle b).2.collector.2 [] ∧
      (s.traced.settle b).2.waiting = [] := by
  obtain ⟨operations, reporter⟩ := s
  obtain ⟨services, ⟨collector, attempts⟩, waiting⟩ := b
  cases h with
  | disabled => exact ⟨.disabled _, rfl⟩
  | inline c => exact ⟨.inline c _, rfl⟩
  | background c h =>
      obtain ⟨hattempts, hwaiting⟩ :=
        sendAll_traced ⟨c, .background⟩ waiting ⟨services, (collector, attempts), []⟩
      refine ⟨.background c ?_, hwaiting⟩
      rw [List.append_nil]
      exact (List.Perm.of_eq hattempts).trans h

/-- Two runs of the same expressions over the same port have the same answers and make the same calls,
durations aside, whatever is done about reports in either of them.  And whoever gets them, every
expression that has a value is reported once, as it was given and with the evaluation that was
returned. -/
theorem reports_beside_answers (port : Port σ) (clock : ω → Float × ω) (clock' : ω' → Float × ω')
    (reporter : Option (Reporter κ)) (reporter' : Option (Reporter κ'))
    (script script' : List Happening)
    (h : script.filterMap Happening.expression? = script'.filterMap Happening.expression?)
    (services : σ) (time : ω) (time' : ω') (collector : κ) (collector' : κ') :
    let s : Service (σ × ω) κ := ⟨port.timed clock, reporter⟩
    let s' : Service (σ × ω') κ' := ⟨port.timed clock', reporter'⟩
    let start : Backends (σ × ω) κ := ⟨(services, time), collector, []⟩
    let start' : Backends (σ × ω') κ' := ⟨(services, time'), collector', []⟩
    let there := s.run script start.traced
    let there' := s'.run script' start'.traced
    let settled := (s.traced.settle there.2).2
    there.1.map Round.expression = script.filterMap Happening.expression? ∧
    there.1.map Round.answer = (s.answers script start).1 ∧
    there.1.map Round.untimed = there'.1.map Round.untimed ∧
    Accounted reporter (there.1.flatMap Round.due) there.2.collector.2 there.2.waiting ∧
    Accounted reporter (there.1.flatMap Round.due) settled.collector.2 [] ∧
    settled.waiting = [] := by
  intro s s' start start' there there' settled
  have hstart : Accounted s.reporter [] start.traced.collector.2 start.traced.waiting := by
    match hreporter : s.reporter with
    | none => exact .disabled []
    | some ⟨c, .inline⟩ => exact .inline c []
    | some ⟨c, .background⟩ => exact .background c .rfl
  have haccounted := s.run_accounted script hstart
  refine ⟨s.expression_run script _, (s.run_erased script _).1, ?_, haccounted,
    s.settle_accounted haccounted⟩
  -- Both runs go as that of the expressions alone, on the other side.
  have hrun :=
    run_untimed port clock clock' reporter reporter' script start.traced start'.traced rfl
  have hrun' :=
    run_untimed port clock' clock' reporter' reporter' script' start'.traced start'.traced rfl
  rw [h] at hrun
  exact hrun.trans hrun'.symm

/-- A port that adds, whatever the operator. -/
def adding : Port Unit where
  compute _ a b s := (.ok (a + b), s)

/-- A collector that takes nothing. -/
def refusing : Collector Unit where
  publish _ s := (.error ⟨"refused"⟩, s)

/-- Reports that are refused and reports that are not made leave two expressions their answers; the
one with a value is reported with its blanks. -/
theorem reports_beside_answers_refused :
    let script : List Happening := [.expression " 1 + 2 ", .expression "1 +", .delivery 0]
    let script' : List Happening := [.expression " 1 + 2 ", .expression "1 +"]
    let there := (Service.mk (adding.timed fun t : Unit => (0.5, t))
      (some ⟨refusing, .background⟩)).run script (Backends.traced ⟨((), ()), (), []⟩)
    let there' := (Service.mk (adding.timed fun t : Unit => (2, t))
      (none : Option (Reporter Unit))).run script' (Backends.traced ⟨((), ()), (), []⟩)
    script.filterMap Happening.expression? = script'.filterMap Happening.expression? ∧
    there.1.map Round.untimed = there'.1.map Round.untimed ∧
    there.2.collector.2.map Report.expression = [" 1 + 2 "] := by
  intro script script' there there'
  refine ⟨rfl, ?_, by decide +kernel⟩
  have hruns := reports_beside_answers adding (fun t : Unit => (0.5, t)) (fun t : Unit => (2, t))
    (some ⟨refusing, .background⟩) (none : Option (Reporter Unit)) script script' rfl () () () () ()
  exact hruns.2.2.1

end Service

end ExprGateway
