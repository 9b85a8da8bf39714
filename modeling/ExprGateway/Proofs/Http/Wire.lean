import ExprGateway.Gateway
import ExprGateway.Proofs.Evaluation.Likeness
import ExprGateway.Proofs.Http.Visit
import ExprGateway.Proofs.Number.ReadBack

/-!
# Calls on the wire

A call is one request, so a connection sees an evaluation as a sequence of requests.
`Connection.traced` writes them down, with what came of each, and `Carried` says that a request with
its exchange is a call with its answer.  `evaluate_wire` puts the two records of an evaluation side by
side: the exchanges of the connection, and the calls of the services over it.  `WireCourse` is the
course of an evaluation in terms of exchanges.

`exists_operands?_operandsBody` is about the other end.  The two operands of a request can be read
again, up to the sign of zero, because no numeral has a blank in it.
-/

namespace ExprGateway

/-- Alike is equal. -/
def Likeness.exact : Likeness := ⟨Eq, Eq, Eq⟩

namespace Likeness

theorem exact_operation {x x' : Operation} (h : exact.SameOperation x x') : x = x' := by
  obtain ⟨o, a, b, r, ms⟩ := x
  obtain ⟨o', a', b', r', ms'⟩ := x'
  obtain ⟨rfl, rfl, rfl, rfl, rfl⟩ := h
  rfl

theorem exact_operations {xs xs' : List Operation} (h : List.Forall₂ exact.SameOperation xs xs') :
    xs = xs' := by
  have heq := h.imp fun _ _ => exact_operation
  rwa [List.forall₂_eq_eq_eq] at heq

theorem exact_outcome {t t' : Except EvaluationError Evaluation} (h : exact.SameOutcome t t') :
    t = t' := by
  cases h with
  | ok hdone hx => rw [exact_operations hdone, show _ = _ from hx]
  | error he =>
      cases he with
      | malformed defect => rfl
      | remote hf => rw [show _ = _ from hf]

theorem exact_answer (t : Answer) : exact.SameAnswer t t := by
  match t with
  | ⟨.ok _, _⟩ => exact .ok rfl rfl
  | ⟨.error _, _⟩ => exact .error rfl

end Likeness

namespace Http

variable {τ κ κ' : Type}

/-! ## The record of a connection -/

/-- The same connection, with every request and what came of it written down. -/
def Connection.traced (connection : Connection τ) : Connection (τ × List (Outgoing × Exchange)) where
  exchange r t :=
    let (exchange, durationMs, next) := connection.exchange r t.1
    (exchange, durationMs, next, t.2 ++ [(r, exchange)])

/-- A request with its exchange is a call with its answer. -/
structure Carried (c : OperationClient) (x : Outgoing × Exchange) (call : Answered) : Prop where
  request : x.1 = c.request call.operator call.a call.b
  outcome : call.answer.outcome = readResult call.operator (c.endpoint call.operator) x.2

theorem carried_call (c : OperationClient) (o : Operator) (a b : Float) (exchange : Exchange)
    (durationMs : Float) :
    Carried c (c.request o a b, exchange)
      ⟨⟨o, a, b⟩, ⟨readResult o (c.endpoint o) exchange, durationMs⟩⟩ := by
  constructor <;> dsimp only

/-- The record of the connection keeps up with the record of the calls. -/
theorem operations_traced_alike (c : OperationClient) (connection : Connection τ) :
    (c.operations connection.traced).Alike .exact
      (fun t s => t.1 = s.1 ∧ List.Forall₂ (Carried c) t.2 s.2)
      (c.operations connection).traced := by
  rintro o a a' b b' ⟨t, exchanges⟩ ⟨t', calls⟩ ha hb ⟨ht, hcalls⟩
  obtain rfl : a = a' := ha
  obtain rfl : b = b' := hb
  obtain rfl : t = t' := ht
  exact ⟨Likeness.exact_answer _, rfl,
    List.rel_append hcalls (.cons (carried_call c o a b _ _) .nil)⟩

/-- An evaluation over a connection: the answer, and the exchanges call by call. -/
theorem evaluate_wire (c : OperationClient) (connection : Connection τ) (reporter : Option (Reporter κ))
    (expression : String) (t : τ) (collector : κ) (waiting : List Report) :
    let s : Service τ κ := ⟨c.operations connection, reporter⟩
    let traced := s.traced.evaluate expression (Backends.traced ⟨t, collector, waiting⟩)
    let wire := (Service.mk (c.operations connection.traced) reporter).evaluate expression
      ⟨(t, []), collector, waiting⟩
    wire.1.answer = (s.evaluate expression ⟨t, collector, waiting⟩).1.answer ∧
      wire.1.answer = traced.1.answer ∧
      List.Forall₂ (Carried c) wire.2.services.2 traced.2.services.2 := by
  intro s traced wire
  obtain ⟨hanswer, -, hcalls⟩ := Service.answer_alike
    ⟨c.operations connection.traced, reporter⟩ ⟨(t, []), collector, waiting⟩
    s.traced (Backends.traced ⟨t, collector, waiting⟩) (operations_traced_alike c connection)
    (fun _ _ => rfl) ⟨rfl, .nil⟩ expression
  have htraced : wire.1.answer = traced.1.answer := Likeness.exact_outcome hanswer
  refine ⟨htraced.trans ?_, htraced, hcalls⟩
  exact congrArg Turn.answer (s.evaluate_traced expression _).1

theorem exists_last_of_forall₂ {α β : Type} {R : α → β → Prop} {xs : List α} {ys : List β} {y : β}
    (h : List.Forall₂ R xs (ys ++ [y])) :
    ∃ earlier x, xs = earlier ++ [x] ∧ List.Forall₂ R earlier ys ∧ R x y := by
  induction ys generalizing xs with
  | nil =>
      cases h with
      | cons hx hnil =>
          cases hnil
          exact ⟨[], _, rfl, .nil, hx⟩
  | cons z ys ih =>
      cases h with
      | cons hz hrest =>
          obtain ⟨earlier, x, rfl, hearlier, hx⟩ := ih hrest
          exact ⟨_ :: earlier, x, rfl, .cons hz hearlier, hx⟩

/-- The ways of an evaluation over a connection: the answer, and the exchanges up to the first that is
no result. -/
inductive WireCourse (c : OperationClient) (expression : String) :
    Except EvaluationError Evaluation → List (Outgoing × Exchange) → Prop where
  | malformed (defect : Malformed) :
      compile expression = .error defect → WireCourse c expression (.error (.malformed defect)) []
  | failed (p : Postfix) (operations : List Operation) (earlier : List (Outgoing × Exchange))
      (o : Operator) (a b : Float) (exchange : Exchange) (failure : RemoteFailure) :
      compile expression = .ok p →
      List.Forall₂ (Carried c) earlier (operations.map Operation.answered) →
      readResult o (c.endpoint o) exchange = .error failure →
      WireCourse c expression (.error (.remote failure)) (earlier ++ [(c.request o a b, exchange)])
  | finished (p : Postfix) (operations : List Operation) (result : Float)
      (exchanges : List (Outgoing × Exchange)) :
      compile expression = .ok p → operations.map Operation.operator = p.operators →
      List.Forall₂ (Carried c) exchanges (operations.map Operation.answered) →
      WireCourse c expression (.ok (.of result operations)) exchanges

/-- There is no other way. -/
theorem wire_course (c : OperationClient) (connection : Connection τ)
    (reporter : Option (Reporter κ)) (expression : String) (t : τ) (collector : κ)
    (waiting : List Report) :
    let wire := (Service.mk (c.operations connection.traced) reporter).evaluate expression
      ⟨(t, []), collector, waiting⟩
    WireCourse c expression wire.1.answer wire.2.services.2 := by
  intro wire
  let s : Service τ κ := ⟨c.operations connection, reporter⟩
  let traced := s.traced.evaluate expression (Backends.traced ⟨t, collector, waiting⟩)
  obtain ⟨-, hanswer, hcarried⟩ := evaluate_wire c connection reporter expression t collector waiting
  change wire.1.answer = traced.1.answer at hanswer
  change List.Forall₂ (Carried c) wire.2.services.2 traced.2.services.2 at hcarried
  have hcourse : Course s expression ⟨t, collector, waiting⟩ traced.1.answer traced.2 :=
    s.course expression ⟨t, collector, waiting⟩
  rw [hanswer]
  generalize wire.2.services.2 = exchanges at hcarried ⊢
  generalize traced.1.answer = answer, traced.2 = b at hcarried hcourse ⊢
  cases hcourse with
  | malformed defect hp =>
      obtain rfl := List.forall₂_nil_right_iff.mp hcarried
      exact .malformed defect hp
  | failed p operations call ms failure _ hp =>
      obtain ⟨earlier, ⟨request, exchange⟩, rfl, hearlier, hlast⟩ := exists_last_of_forall₂ hcarried
      obtain rfl : request = c.request call.operator call.a call.b := hlast.request
      exact .failed p operations earlier call.operator call.a call.b exchange failure hp hearlier
        hlast.outcome.symm
  | finished p operations result services hp ho =>
      rw [s.traced.services_report] at hcarried
      exact .finished p operations result exchanges hp ho hcarried

/-- What a gateway does for a request that is evaluated. -/
theorem handle_wire (g : Gateway) (toServices : Connection τ) (toCollector : Connection κ) {r : Request}
    (h : r.AsksEvaluation) (hfits : r.Fits) (hne : r.body ≠ []) (t : τ) (collector : κ)
    (waiting : List Report) :
    let there := handle (g.service toServices.traced toCollector) r ⟨(t, []), collector, waiting⟩
    ∃ answer, there.1.response = respond answer ∧
      WireCourse g.operations (Utf8.decode r.body) answer there.2.services.2 := by
  intro there
  obtain ⟨reporter, hservice⟩ : ∃ reporter, g.service toServices.traced toCollector =
    ⟨g.operations.operations toServices.traced, reporter⟩ := ⟨_, rfl⟩
  have hbody := handle_of_body h hfits hne (g.service toServices.traced toCollector)
    ⟨(t, []), collector, waiting⟩
  rw [hservice] at hbody
  simp only [there, hservice, hbody.2]
  exact ⟨_, hbody.1, wire_course g.operations toServices reporter _ t collector waiting⟩

/-! ## Texts without certain characters -/

/-- None of these characters is in a text. -/
def Lacks (absent cs : List Char) : Prop := ∀ c ∈ absent, c ∉ cs

instance (absent cs : List Char) : Decidable (Lacks absent cs) := List.decidableBAll (· ∉ cs) absent

@[simp] theorem lacks_append_iff {absent cs ds : List Char} :
    Lacks absent (cs ++ ds) ↔ Lacks absent cs ∧ Lacks absent ds := by
  simp only [Lacks, List.mem_append, not_or]
  exact forall₂_and

theorem lacks_of_forall {absent cs : List Char} {p : Char → Bool} (h : ∀ c ∈ cs, p c = true)
    (habsent : absent.any p = false) : Lacks absent cs :=
  fun c hc hmem => List.any_eq_false.mp habsent c hc (h c hmem)

/-! ## The operands of a request -/

/-- The two numbers of a body, with a blank between them. -/
def operands? (cs : List Char) : Option (Float × Float) :=
  let (first, rest) := cs.span fun c => !isBlank c
  match readNumber? first, readNumber? (rest.drop 1) with
  | some a, some b => some (a, b)
  | _, _ => none

theorem toList_operandsBody (a b : Float) :
    (operandsBody a b).toList = (formatNumber a).toList ++ ' ' :: (formatNumber b).toList := by
  have hblank : (toString " ").toList = [' '] := rfl
  simp only [operandsBody, String.toList_append, hblank, List.append_assoc, List.singleton_append]
  rfl

theorem numeral_formatNumber {x : Float} (hx : x.isFinite = true) : Numeral (formatNumber x).toList := by
  rw [formatNumber, Style.write, String.toList_ofList]
  exact Numeral.chars (s := Style.compact) .nil hx

theorem lacks_formatNumber (x : Float) : Lacks [' ', '\r', '\n'] (formatNumber x).toList := by
  have hchars : ∀ c ∈ Style.compact.chars x, c ∉ [' ', '\r', '\n'] := by
    have hnan : Lacks [' ', '\r', '\n'] Style.compact.nan := by decide
    have hinfinity : ∀ negative, Lacks [' ', '\r', '\n'] (Style.compact.infinity negative) := by decide
    have hnumeral : [' ', '\r', '\n'].any isNumeral = false := rfl
    exact Style.forall_mem_chars .nil (fun c hc hmem => List.any_eq_false.mp hnumeral c hmem hc)
      (fun c hc hmem => hnan c hmem hc) (fun negative c hc hmem => hinfinity negative c hmem hc) x
  rw [formatNumber, Style.write, String.toList_ofList]
  exact fun c hmem hc => hchars c hc hmem

theorem blank_notMem_formatNumber (x : Float) : ' ' ∉ (formatNumber x).toList :=
  lacks_formatNumber x ' ' (by decide)

/-- The operands of a request are read again. -/
theorem exists_operands?_operandsBody {a : Float} (ha : a.isFinite = true) (b : Float) :
    ∃ a' b', operands? (operandsBody a b).toList = some (a', b') ∧ SameNumber a a' ∧
      SameNumber b b' := by
  refine ⟨unsignZero a, unsignZero b, ?_, .unsignZero a, .unsignZero b⟩
  have hspan : (operandsBody a b).toList.span (fun c => !isBlank c) =
      ((formatNumber a).toList, ' ' :: (formatNumber b).toList) := by
    rw [toList_operandsBody]
    refine span_append (fun c hc => ?_) rfl
    rw [isBlank_of_isNumeral (numeral_formatNumber ha c hc)]
    rfl
  simp only [operands?, hspan, readNumber?_formatNumber a, List.drop_succ_cons, List.drop_zero,
    readNumber?_formatNumber b]

end Http

end ExprGateway
