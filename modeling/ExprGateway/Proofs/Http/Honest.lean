import ExprGateway.Proofs.Http.Wire
import ExprGateway.Proofs.Number.Arithmetic
import ExprGateway.Proofs.Text.Trimming
import ExprGateway.Proofs.Text.Utf8

/-!
# Honest services

A service is honest with respect to an arithmetic if it reads the operands of a request and answers
with any text of the result.  Between the gateway and such a service a number passes through two
texts, and loses at most the sign of zero (`compute_honest`, one call).  So an evaluation over
honest services goes the way of the same evaluation in the process, operation by operation, up to
the first result that is not finite: the service says it, but the gateway does not take it for a
number.  `Followed` says how far it got, and `evaluateFrom_followed` is the run.

`honest_services_refine` states it for two gateways that get one request.  What the arithmetic has to do
for this is to respect zeros, and that of floats does.
-/

namespace ExprGateway

/-- Operations that are computed in the process; a clock says how long each of them takes. -/
def Operations.inProcess {σ : Type} (f : Operator → Float → Float → Float)
    (clock : Operator → Float → Float → σ → Float × σ) : Operations σ where
  compute o a b s :=
    let (durationMs, s) := clock o a b s
    (⟨.ok (f o a b), durationMs⟩, s)

/-- Finite, and the same number up to the sign of zero; times aside. -/
def Likeness.upToZero : Likeness where
  value x y := SameNumber x y ∧ x.isFinite = true
  duration _ _ := True
  failure _ _ := False

/-- The same evaluation, with other measured times. -/
def Evaluation.retimed (e : Evaluation) (durations : List Float) : Evaluation :=
  .of e.result (List.zipWith (fun x durationMs => { x with durationMs }) e.operations durations)

namespace Http

open Likeness Binary64

variable {σ τ κ κ' : Type} {f : Operator → Float → Float → Float} {c : OperationClient}
  {connection : Connection τ}

/-- Services that read the operands of a request, and answer with some text of the result. -/
def Honest (f : Operator → Float → Float → Float) (c : OperationClient)
    (connection : Connection τ) : Prop :=
  ∀ (o : Operator) (r : Outgoing) (a b : Float) (t : τ),
    r.method = "POST" → r.url = c.endpoint o → operands? r.body.toList = some (a, b) →
    ∃ body, (connection.exchange r t).1 = .complete 200 body ∧
      readNumber? (trimBlanks (Utf8.decodeChars body)) = some (f o a b)

/-! ## One call -/

theorem request_congr (o : Operator) {a a' b b' : Float} (ha : SameNumber a a')
    (hb : SameNumber b b') : c.request o a b = c.request o a' b' := by
  simp only [OperationClient.request, operandsBody, ha.formatNumber_eq, hb.formatNumber_eq]

/-- A number that is answered is the result if it is finite, and no body of a result otherwise. -/
theorem readResult_of_read (o : Operator) (url : Url) {body : List UInt8} {y : Float}
    (h : readNumber? (trimBlanks (Utf8.decodeChars body)) = some y) :
    (y.isFinite = true → readResult o url (.complete 200 body) = .ok y) ∧
      (y.isFinite = false →
        ∃ detail, readResult o url (.complete 200 body) = .error ⟨o, .invalidBody, detail⟩) := by
  have hread := readFinite?_of_read h
  have hsuccess : isSuccess 200 = true := rfl
  refine ⟨fun hy => ?_, fun hy => ?_⟩
  · rw [if_pos hy] at hread
    simp only [readResult, Utf8.decode, String.toList_ofList, hsuccess, hread, Bool.not_true,
      Bool.false_eq_true, if_false]
  · rw [if_neg (by rw [hy]; decide)] at hread
    simp only [readResult, Utf8.decode, String.toList_ofList, hsuccess, hread, Bool.not_true,
      Bool.false_eq_true, if_false]
    exact ⟨_, rfl⟩

/-- One call of an honest service, with operands that may differ in the sign of zero. -/
theorem compute_honest (hf : RespectsZeros f) (hc : Honest f c connection) (o : Operator)
    {a a' b b' : Float} (ha : upToZero.value a a') (hb : upToZero.value b b')
    (s : τ × List (Outgoing × Exchange)) :
    ∃ durationMs next,
      next.2.map Prod.fst = s.2.map Prod.fst ++ [c.request o a b] ∧
      ((f o a b).isFinite = true → ∃ y, upToZero.value (f o a b) y ∧
        (c.operations connection.traced).compute o a' b' s = (⟨.ok y, durationMs⟩, next)) ∧
      ((f o a b).isFinite = false → ∃ detail,
        (c.operations connection.traced).compute o a' b' s =
          (⟨.error ⟨o, .invalidBody, detail⟩, durationMs⟩, next)) := by
  obtain ⟨a'', b'', hoperands, hsameA, hsameB⟩ := exists_operands?_operandsBody
    (ha.1.isFinite_iff.mp ha.2) b'
  obtain ⟨body, hexchange, hread⟩ := hc o (c.request o a' b') a'' b'' s.1 rfl rfl hoperands
  have hagree := hf o (ha.1.trans hsameA) (hb.1.trans hsameB)
  obtain ⟨hok, herror⟩ := readResult_of_read o (c.endpoint o) hread
  match hreply : connection.exchange (c.request o a' b') s.1, hexchange with
  | (_, durationMs, next), rfl =>
      have hcompute : (c.operations connection.traced).compute o a' b' s =
          (⟨readResult o (c.endpoint o) (.complete 200 body), durationMs⟩, next,
            s.2 ++ [(c.request o a' b', .complete 200 body)]) := by
        simp only [OperationClient.operations, Connection.traced, hreply]
      refine ⟨durationMs, (next, s.2 ++ [(c.request o a' b', .complete 200 body)]), ?_,
        fun hfinite => ?_, fun hinfinite => ?_⟩
      · rw [List.map_append, request_congr o ha.1 hb.1]
        rfl
      · rcases hagree with hsame | ⟨hnot, -⟩
        · refine ⟨f o a'' b'', ⟨hsame, hfinite⟩, ?_⟩
          rw [hcompute, hok (hsame.isFinite_iff.mp hfinite)]
        · rw [hfinite] at hnot
          cases hnot
      · have hnot : (f o a'' b'').isFinite = false := by
          rcases hagree with hsame | ⟨-, hnot⟩
          · rw [Bool.eq_false_iff, ne_eq, ← hsame.isFinite_iff, hinfinite]
            decide
          · exact hnot
        obtain ⟨detail, hdetail⟩ := herror hnot
        exact ⟨detail, by rw [hcompute, hdetail]⟩

/-! ## The whole evaluation -/

/-- The request of an operation. -/
def asked (c : OperationClient) (x : Operation) : Outgoing := c.request x.operator x.a x.b

/-- How far an evaluation over services follows one in the process, which has made the operations of
the first list: to its end, or to the first result that is not finite.  The last list is the
requests. -/
inductive Followed (c : OperationClient) : List Operation → Attempt → Attempt → List Outgoing → Prop
    where
  | through {made : List Operation} {t t' : Attempt} :
      (∀ x ∈ made, x.result.isFinite = true) → upToZero.SameAttempt t t' →
      Followed c made t t' (made.map (asked c))
  | stopped {done rest done' : List Operation} {x : Operation} {t : Attempt} {detail : String} :
      (∀ y ∈ done, y.result.isFinite = true) → x.result.isFinite = false →
      Followed c (done ++ x :: rest) t ⟨done', .error (.remote ⟨x.operator, .invalidBody, detail⟩)⟩
        ((done ++ [x]).map (asked c))

theorem Followed.cons (x : Operation) {made : List Operation} {t t' : Attempt}
    {requests : List Outgoing} (hx : x.result.isFinite = true) (h : Followed c made t t' requests) :
    Followed c (x :: made) t t' (asked c x :: requests) := by
  cases h with
  | through hmade hsame => exact .through (List.forall_mem_cons.mpr ⟨hx, hmade⟩) hsame
  | stopped hdone hlast => exact .stopped (List.forall_mem_cons.mpr ⟨hx, hdone⟩) hlast

/-- How the rest of two evaluations goes, where the operations `done` are made, the last one first,
and the requests `sent` are out. -/
def FollowsFrom (c : OperationClient) (done : List Operation) (sent : List Outgoing) (t t' : Attempt)
    (sent' : List Outgoing) : Prop :=
  ∃ made requests, t.operations = done.reverse ++ made ∧ sent' = sent ++ requests ∧
    Followed c made t t' requests

namespace FollowsFrom

variable {done : List Operation} {sent sent' : List Outgoing} {t t' : Attempt}

/-- Both end here. -/
theorem ended (h : t.operations = done.reverse) (hsame : upToZero.SameAttempt t t') :
    FollowsFrom c done sent t t' sent :=
  ⟨[], [], h.trans (List.append_nil _).symm, (List.append_nil _).symm,
    .through (fun _ h => nomatch h) hsame⟩

/-- One operation is made and asked for, and has a finite result. -/
theorem step (x : Operation) (hx : x.result.isFinite = true)
    (h : FollowsFrom c (x :: done) (sent ++ [asked c x]) t t' sent') :
    FollowsFrom c done sent t t' sent' := by
  obtain ⟨made, requests, hmade, hrequests, hfollowed⟩ := h
  refine ⟨x :: made, asked c x :: requests, ?_, ?_, hfollowed.cons x hx⟩
  · rw [hmade, List.reverse_cons, List.append_assoc, List.singleton_append]
  · rw [hrequests, List.append_assoc, List.singleton_append]

/-- One operation is made and asked for, and its result is not finite. -/
theorem stop (x : Operation) (hx : x.result.isFinite = false) {rest : List Operation}
    (h : t.operations = (x :: done).reverse ++ rest) (done' : List Operation) (detail : String) :
    FollowsFrom c done sent t ⟨done', .error (.remote ⟨x.operator, .invalidBody, detail⟩)⟩
      (sent ++ [asked c x]) := by
  have hstopped : Followed c ([] ++ x :: rest) t
      ⟨done', .error (.remote ⟨x.operator, .invalidBody, detail⟩)⟩ (([] ++ [x]).map (asked c)) :=
    .stopped (fun _ h => nomatch h) hx
  refine ⟨_, _, ?_, rfl, hstopped⟩
  rw [h, List.reverse_cons, List.append_assoc, List.singleton_append, List.nil_append]

end FollowsFrom

/-- An evaluation adds to the operations that are done. -/
theorem exists_operations_evaluateFrom (ops : Operations σ) (p : Postfix) :
    ∀ (stack : List Float) (done : List Operation) (s : σ),
      ∃ made, (p.evaluateFrom ops stack done s).1.operations = done.reverse ++ made := by
  induction p with
  | nil => exact fun _ done _ => ⟨[], (List.append_nil _).symm⟩
  | cons token p ih =>
      intro stack done s
      cases token with
      | number value => exact ih _ _ _
      | leftParen => exact ⟨[], (List.append_nil _).symm⟩
      | rightParen => exact ⟨[], (List.append_nil _).symm⟩
      | operator o =>
          match stack with
          | [] => exact ⟨[], (List.append_nil _).symm⟩
          | [_] => exact ⟨[], (List.append_nil _).symm⟩
          | b :: a :: stack =>
              simp only [Postfix.evaluateFrom]
              rcases ops.compute o a b s with ⟨⟨outcome, ms⟩, s⟩
              cases outcome with
              | error _ => exact ⟨[], (List.append_nil _).symm⟩
              | ok result =>
                  obtain ⟨made, hmade⟩ := ih (result :: stack) (⟨o, a, b, result, ms⟩ :: done) s
                  exact ⟨⟨o, a, b, result, ms⟩ :: made, by
                    rw [hmade, List.reverse_cons, List.append_assoc, List.singleton_append]⟩

theorem sameOperation (o : Operator) {a a' b b' x x' : Float} (ha : upToZero.value a a')
    (hb : upToZero.value b b') (hx : upToZero.value x x') (ms ms' : Float) :
    upToZero.SameOperation ⟨o, a, b, x, ms⟩ ⟨o, a', b', x', ms'⟩ where
  operator := rfl
  a := ha
  b := hb
  result := hx
  duration := trivial

/-- Over honest services, an evaluation follows the one in the process. -/
theorem evaluateFrom_followed (hf : RespectsZeros f) (hc : Honest f c connection)
    (clock : Operator → Float → Float → σ → Float × σ) {p : Postfix} :
    (∀ x, .number x ∈ p → x.isFinite = true) →
    ∀ {stack stack' : List Float} {done done' : List Operation} (s : σ)
      (t : τ × List (Outgoing × Exchange)),
      List.Forall₂ upToZero.value stack stack' → List.Forall₂ upToZero.SameOperation done done' →
      FollowsFrom c done (t.2.map Prod.fst) (p.evaluateFrom (.inProcess f clock) stack done s).1
        (p.evaluateFrom (c.operations connection.traced) stack' done' t).1
        ((p.evaluateFrom (c.operations connection.traced) stack' done' t).2.2.map Prod.fst) := by
  induction p with
  | nil =>
      intro _ stack stack' done done' s t hstack hdone
      exact .ended rfl (Postfix.settle_alike hstack (List.forall₂_reverse_iff.mpr hdone))
  | cons token p ih =>
      intro hnumbers stack stack' done done' s t hstack hdone
      have hrest := fun x hx => hnumbers x (List.mem_cons_of_mem token hx)
      have hreverse := List.forall₂_reverse_iff.mpr hdone
      cases token with
      | number value =>
          have hvalue := hnumbers value List.mem_cons_self
          exact ih hrest s t (.cons ⟨.refl value, hvalue⟩ hstack) hdone
      | leftParen => exact .ended rfl (.failed hreverse (.malformed _))
      | rightParen => exact .ended rfl (.failed hreverse (.malformed _))
      | operator o =>
          match stack, stack', hstack with
          | _, _, .nil => exact .ended rfl (.failed hreverse (.malformed _))
          | _, _, .cons _ .nil => exact .ended rfl (.failed hreverse (.malformed _))
          | b :: a :: stack, b' :: a' :: stack', .cons hb (.cons ha hstack) =>
              let x : Operation := ⟨o, a, b, f o a b, (clock o a b s).1⟩
              have hhere : (Operations.inProcess f clock).compute o a b s =
                  (⟨.ok (f o a b), (clock o a b s).1⟩, (clock o a b s).2) := rfl
              obtain ⟨ms, next, hnext, hok, herror⟩ := compute_honest hf hc o ha hb t
              have hsent : next.2.map Prod.fst = t.2.map Prod.fst ++ [asked c x] := hnext
              simp only [Postfix.evaluateFrom, hhere]
              cases hfinite : (f o a b).isFinite with
              | true =>
                  obtain ⟨y, hy, hcompute⟩ := hok hfinite
                  have hxy := sameOperation o ha hb hy (clock o a b s).1 ms
                  have hfollows := ih hrest (clock o a b s).2 next (.cons hy hstack) (.cons hxy hdone)
                  simp only [hcompute]
                  rw [hsent] at hfollows
                  exact hfollows.step x hfinite
              | false =>
                  obtain ⟨detail, hcompute⟩ := herror hfinite
                  obtain ⟨rest, hmade⟩ := exists_operations_evaluateFrom (.inProcess f clock) p
                    (f o a b :: stack) (x :: done) (clock o a b s).2
                  simp only [hcompute, hsent]
                  exact .stop x hfinite hmade done'.reverse detail

/-! ## Two gateways -/

/-- In the process no call fails, so what compiles has a value. -/
theorem exists_answer_inProcess (clock : Operator → Float → Float → σ → Float × σ)
    (reporter : Option (Reporter κ)) {expression : String} {p : Postfix}
    (hp : compile expression = .ok p) (b : Backends σ κ) :
    ∃ e, ((Service.mk (.inProcess f clock) reporter).evaluate expression b).1.answer = .ok e := by
  let s : Service σ κ := ⟨.inProcess f clock, reporter⟩
  let L : Likeness := ⟨fun _ _ => True, fun _ _ => True, fun _ _ => False⟩
  have halike : s.operations.Alike L (fun _ _ => True) s.operations :=
    fun _ _ _ _ _ _ _ _ _ _ => ⟨.ok trivial trivial, trivial⟩
  have hsame := (s.answer_alike b s b halike (fun _ _ => trivial) trivial expression).1
  rcases s.answer_of_compile hp b with ⟨e, he, -⟩ | ⟨failure, hfailure⟩
  · exact ⟨e, he⟩
  · rw [hfailure] at hsame
    cases hsame with
    | error herror =>
        cases herror with
        | remote hfalse => exact hfalse.elim

theorem line_retimed {x x' : Operation} (h : upToZero.SameOperation x x') :
    Operation.line { x with durationMs := x'.durationMs } = x'.line := by
  obtain ⟨o, a, b, r, ms⟩ := x
  obtain ⟨o', a', b', r', ms'⟩ := x'
  obtain ⟨rfl, ⟨ha, -⟩, ⟨hb, -⟩, ⟨hr, -⟩, -⟩ := h
  simp only [Operation.line, Operation.timing, ha.formatNumber_eq, hb.formatNumber_eq,
    hr.formatNumber_eq]

/-- Operations that are the same up to the sign of zero have the same lines, times aside. -/
theorem lines_retimed {done done' : List Operation}
    (h : List.Forall₂ upToZero.SameOperation done done') :
    (List.zipWith (fun x durationMs => { x with durationMs : Operation }) done
      (done'.map Operation.durationMs)).map Operation.line = done'.map Operation.line := by
  induction h with
  | nil => rfl
  | cons hx _ ih => simp only [List.map_cons, List.zipWith_cons_cons, line_retimed hx, ih]

theorem page_eq (e : Evaluation) :
    e.page = s!"result = {formatNumber e.result}" ++ lineEnd ++ "operations timings:" ++ lineEnd ++
      String.join ((e.operations.map Operation.line).map (· ++ lineEnd)) := by
  rw [Evaluation.page, List.map_map]
  rfl

theorem page_retimed {done done' : List Operation} {x x' : Float}
    (hdone : List.Forall₂ upToZero.SameOperation done done') (hx : upToZero.value x x') :
    ((Evaluation.of x done).retimed (done'.map Operation.durationMs)).page =
      (Evaluation.of x' done').page := by
  have hlines := lines_retimed hdone
  simp only [page_eq, Evaluation.retimed, Evaluation.of, hx.1.formatNumber_eq] at hlines ⊢
  rw [hlines]

theorem first_eq {P : Operation → Prop} {xs xs' ys ys' : List Operation} {x x' : Operation}
    (h : xs ++ x :: ys = xs' ++ x' :: ys') (hxs : ∀ y ∈ xs, P y) (hx : ¬ P x)
    (hxs' : ∀ y ∈ xs', P y) (hx' : ¬ P x') : xs = xs' ∧ x = x' := by
  induction xs generalizing xs' with
  | nil =>
      cases xs' with
      | nil => exact ⟨rfl, (List.cons.inj h).1⟩
      | cons z zs => exact absurd ((List.cons.inj h).1 ▸ hxs' z List.mem_cons_self) hx
  | cons w ws ih =>
      cases xs' with
      | nil => exact absurd ((List.cons.inj h).1 ▸ hxs w List.mem_cons_self) hx'
      | cons z zs =>
          obtain ⟨rfl, htail⟩ := List.cons.inj h
          obtain ⟨rfl, rfl⟩ := ih htail (fun y hy => hxs y (List.mem_cons_of_mem w hy))
            (fun y hy => hxs' y (List.mem_cons_of_mem w hy))
          exact ⟨rfl, rfl⟩

/-- What a gateway over services makes of an expression, given the answer that it has in the
process: its response, and the requests to the services. -/
structure Refines (c : OperationClient) (expression : String)
    (answer : Except EvaluationError Evaluation) (response : Response)
    (requests : List Outgoing) : Prop where
  /-- What is malformed is the same response on both sides, and asks nobody. -/
  malformed : ∀ defect, compile expression = .error defect →
    answer = .error (.malformed defect) ∧ response = respond answer ∧ response.status = 400 ∧
      requests = []
  /-- In the process, what compiles has a value. -/
  compiled : ∀ p, compile expression = .ok p →
    ∃ e, answer = .ok e ∧ e.operations.map Operation.operator = p.operators
  /-- Where all results are finite, the page differs in the measured times only. -/
  finite : ∀ e, answer = .ok e → (∀ x ∈ e.operations, x.result.isFinite = true) →
    ∃ durations, durations.length = e.operations.length ∧
      response = .text 200 (e.retimed durations).page ∧ requests = e.operations.map (asked c)
  /-- The first result that is not finite is no body of a result, and nobody is asked behind it. -/
  infinite : ∀ e done x rest, answer = .ok e → e.operations = done ++ x :: rest →
    (∀ y ∈ done, y.result.isFinite = true) → x.result.isFinite = false →
    ∃ failure : RemoteFailure, failure.operator = x.operator ∧ failure.kind = .invalidBody ∧
      response = respond (.error (.remote failure)) ∧ response.status = 502 ∧
      requests = (done ++ [x]).map (asked c)

theorem exists_of_answer {t : Attempt} {e : Evaluation} (h : t.answer = .ok e) :
    ∃ result operations, t = ⟨operations, .ok result⟩ ∧ e = .of result operations := by
  obtain ⟨operations, outcome⟩ := t
  cases outcome with
  | error error => cases h
  | ok result => exact ⟨result, operations, rfl, (Except.ok.inj h).symm⟩

/-- A run that is followed is refined. -/
theorem Followed.refines {expression : String} {p : Postfix} {operations : List Operation}
    {result : Float} {t' : Attempt} {requests : List Outgoing}
    (h : Followed c operations ⟨operations, .ok result⟩ t' requests)
    (hp : compile expression = .ok p) (ho : operations.map Operation.operator = p.operators) :
    Refines c expression (.ok (.of result operations)) (respond t'.answer) requests where
  malformed := fun defect hdefect => by
    rw [hp] at hdefect
    cases hdefect
  compiled := fun q hq => ⟨_, rfl, ho.trans (by rw [Except.ok.inj (hq.symm.trans hp)])⟩
  finite := fun e he hfinite => by
    obtain rfl := Except.ok.inj he
    change ∀ x ∈ operations, _ at hfinite
    cases h with
    | through _ hsame =>
        cases hsame with
        | finished hdone hx =>
            refine ⟨_, ?_, congrArg (Response.text 200) (page_retimed hdone hx).symm, rfl⟩
            rw [List.length_map]
            exact hdone.length_eq.symm
    | stopped _ hlast =>
        have hfalse := hfinite _ (List.mem_append_right _ List.mem_cons_self)
        rw [hlast] at hfalse
        cases hfalse
  infinite := fun e done x rest he hsplit hdone hx => by
    obtain rfl := Except.ok.inj he
    change operations = _ at hsplit
    cases h with
    | through hmade _ =>
        have hfalse := hmade x (hsplit ▸ List.mem_append_right done List.mem_cons_self)
        rw [hx] at hfalse
        cases hfalse
    | stopped hdone' hlast =>
        obtain ⟨rfl, rfl⟩ := first_eq (P := fun y => y.result.isFinite = true) hsplit hdone'
          (by rw [hlast]; decide) hdone (by rw [hx]; decide)
        exact ⟨_, rfl, rfl, rfl, rfl, rfl⟩

theorem refines_of_evaluate (hf : RespectsZeros f) (hc : Honest f c connection) (expression : String)
    (reporter' : Option (Reporter κ')) (clock : Operator → Float → Float → σ → Float × σ)
    (reporter : Option (Reporter κ)) (b : Backends σ κ) (t : τ) (collector : κ')
    (waiting : List Report) :
    let here : Service σ κ := ⟨.inProcess f clock, reporter⟩
    let there : Service (τ × List (Outgoing × Exchange)) κ' :=
      ⟨c.operations connection.traced, reporter'⟩
    let ended := there.evaluate expression ⟨(t, []), collector, waiting⟩
    Refines c expression (here.evaluate expression b).1.answer (respond ended.1.answer)
      (ended.2.services.2.map Prod.fst) := by
  intro here there ended
  cases hp : compile expression with
  | error defect =>
      have hended := there.evaluate_of_malformed (b := ⟨(t, []), collector, waiting⟩) hp
      rw [show ended = _ from hended, here.evaluate_of_malformed hp]
      exact {
        malformed := fun defect' h => by
          obtain rfl := Except.error.inj (hp.symm.trans h)
          exact ⟨rfl, rfl, rfl, rfl⟩
        compiled := fun p h => by rw [hp] at h; cases h
        finite := fun e h => nomatch h
        infinite := fun e _ _ _ h => nomatch h }
  | ok p =>
      obtain ⟨made, requests, hmade, hrequests, hfollowed⟩ :=
        evaluateFrom_followed hf hc clock (fun x hx => finite_of_compile hp hx) b.services
          (t, []) (.nil : List.Forall₂ upToZero.value [] []) .nil
      rcases here.answer_of_compile hp b with ⟨e, he, ho⟩ | ⟨failure, hfailure⟩
      · rw [he, show ended.1.answer = _ from there.answer_eq _ hp,
          show ended.2.services = _ from there.services_eq _ hp]
        rw [here.answer_eq b hp] at he
        obtain ⟨result, operations, hattempt, rfl⟩ := exists_of_answer he
        have hlocal : (Postfix.evaluateFrom (.inProcess f clock) p [] [] b.services).1 =
          ⟨operations, .ok result⟩ := hattempt
        rw [hlocal] at hmade hfollowed
        obtain rfl : operations = made := hmade
        have hasked : (p.evaluate there.operations (t, [])).2.2.map Prod.fst = requests := hrequests
        rw [hasked]
        exact hfollowed.refines hp ho
      · obtain ⟨e, he⟩ := exists_answer_inProcess clock reporter hp b
        rw [hfailure] at he
        cases he

/-- A gateway over honest services refines one that computes in the process: it gives the same
response up to measured times, or stops with the first result that is not finite, and it asks for
exactly the operations up to there.  What is written down of the requests changes no response. -/
theorem honest_services_refine (hf : RespectsZeros f) (g : Gateway) {toServices : Connection τ}
    (hc : Honest f g.operations toServices) (toCollector : Connection κ')
    (clock : Operator → Float → Float → σ → Float × σ) (reporter : Option (Reporter κ)) {r : Request}
    (h : r.AsksEvaluation) (hfits : r.Fits) (hne : r.body ≠ []) (b : Backends σ κ) (t : τ)
    (collector : κ') (waiting : List Report) :
    let here : Service σ κ := ⟨.inProcess f clock, reporter⟩
    let answer := (here.evaluate (Utf8.decode r.body) b).1.answer
    let there := handle (g.service toServices.traced toCollector) r ⟨(t, []), collector, waiting⟩
    (handle here r b).1.response = respond answer ∧
      there.1.response =
        (handle (g.service toServices toCollector) r ⟨t, collector, waiting⟩).1.response ∧
      Refines g.operations (Utf8.decode r.body) answer there.1.response
        (there.2.services.2.map Prod.fst) := by
  intro here answer there
  obtain ⟨hresponse, hbackends⟩ := handle_of_body h hfits hne
    (g.service toServices.traced toCollector) ⟨(t, []), collector, waiting⟩
  obtain ⟨herased, -, -⟩ := evaluate_wire g.operations toServices
    (g.service toServices toCollector).reporter (Utf8.decode r.body) t collector waiting
  refine ⟨(handle_of_body h hfits hne here b).1, ?_, ?_⟩
  · rw [hresponse, (handle_of_body h hfits hne _ _).1]
    exact congrArg respond herased
  · rw [hresponse, hbackends]
    exact refines_of_evaluate hf hc _ _ clock reporter b t collector waiting

/-! ## Services that answer in plain text

For every arithmetic there are honest services: those that answer with the plain text of the result.
-/

/-- The bytes of characters below 128. -/
def asciiBytes (cs : List Char) : List UInt8 := cs.map fun c => UInt8.ofNat c.toNat

/-- Below 128 a character is one byte. -/
theorem asciiBytes_eq {cs : List Char} (h : ∀ c ∈ cs, c.toNat < 128) : asciiBytes cs = Utf8.encode cs := by
  induction cs with
  | nil => rfl
  | cons c cs ih =>
      obtain ⟨hc, hcs⟩ := List.forall_mem_cons.mp h
      have hbyte := Utf8.encodeChar_of_one hc
      rw [Char.ofNat_toNat] at hbyte
      rw [Utf8.encode, List.flatMap_cons, hbyte]
      exact congrArg (UInt8.ofNat c.toNat :: ·) (ih hcs)

theorem decodeChars_asciiBytes {cs : List Char} (h : ∀ c ∈ cs, c.toNat < 128) :
    Utf8.decodeChars (asciiBytes cs) = cs := by
  rw [asciiBytes_eq h, Utf8.decodeChars_encode]

theorem plain_chars (x : Float) : ∀ c ∈ Style.plain.chars x, c.toNat < 128 ∧ isBlank c = false := by
  have hword : ∀ {cs : List Char}, cs.all (fun c => decide (c.toNat < 128) && !isBlank c) = true →
      ∀ c ∈ cs, c.toNat < 128 ∧ isBlank c = false := by
    intro cs hall c hc
    simpa using List.all_eq_true.mp hall c hc
  exact Style.forall_mem_chars .nil (fun _ hc => ⟨toNat_of_isNumeral hc, isBlank_of_isNumeral hc⟩)
    (hword (by decide)) (fun negative => hword (by cases negative <;> decide)) x

/-- A connection to services that answer with the plain text of the result. -/
def plainServices (f : Operator → Float → Float → Float) (c : OperationClient) : Connection Unit where
  exchange r _ :=
    match Operator.all.find? fun o => c.endpoint o == r.url, operands? r.body.toList with
    | some o, some (a, b) => (.complete 200 (asciiBytes (Style.plain.chars (f o a b))), 0, ())
    | _, _ => (.silent false, 0, ())

theorem plainServices_honest (f : Operator → Float → Float → Float) {c : OperationClient}
    (hc : ∀ o o', c.endpoint o = c.endpoint o' → o = o') : Honest f c (plainServices f c) := by
  intro o r a b t _ hurl hoperands
  have hfind : (Operator.all.find? fun o' => c.endpoint o' == r.url) = some o := by
    have hpred : (fun o' => c.endpoint o' == r.url) = fun o' => decide (o' = o) := by
      funext o'
      rw [hurl, Bool.eq_iff_iff, beq_iff_eq, decide_eq_true_iff]
      exact ⟨hc o' o, fun h => h ▸ rfl⟩
    rw [hpred]
    cases o <;> rfl
  refine ⟨asciiBytes (Style.plain.chars (f o a b)), ?_, ?_⟩
  · simp only [plainServices, hfind, hoperands]
  · have hchars := plain_chars (f o a b)
    rw [decodeChars_asciiBytes fun c hc => (hchars c hc).1,
      (tight_of_forall fun c hc => (hchars c hc).2).trimBlanks_eq]
    exact readNumber?_plain _

/-- A gateway with one address for each operator, and without reports. -/
def localGateway : Gateway := ⟨⟨fun o => ⟨s!"http://localhost/{o.name}"⟩, 1000⟩, none⟩

theorem localGateway_endpoint (o o' : Operator)
    (h : localGateway.operations.endpoint o = localGateway.operations.endpoint o') : o = o' := by
  revert h
  cases o <;> cases o' <;> decide

/-- `1/0` is asked for, and refused when it is answered. -/
theorem honest_services_refine_quotient :
    let r : Request := ⟨"POST", "/", [], [49, 47, 48]⟩
    let c := localGateway.operations
    let services := plainServices ieee c
    let there := handle (localGateway.service services.traced services) r ⟨((), []), (), []⟩
    RespectsZeros ieee ∧ Honest ieee c services ∧ r.AsksEvaluation ∧ r.Fits ∧ r.body ≠ [] ∧
      there.1.response.status = 502 ∧ there.2.services.2.map Prod.fst = [c.request .divide 1 0] := by
  intro r c services there
  have hservices : Honest ieee c services := plainServices_honest ieee localGateway_endpoint
  have hasks : r.AsksEvaluation := ⟨rfl, .inl (by decide +kernel)⟩
  have hfits : r.Fits := ⟨by decide, fun n hn => by cases hn⟩
  have hbody : r.body ≠ [] := List.cons_ne_nil _ _
  obtain ⟨-, -, hrefines⟩ := honest_services_refine ieee_respectsZeros localGateway hservices services
    (fun _ _ _ s => (0, s)) (none : Option (Reporter Unit)) hasks hfits hbody ⟨(), (), []⟩ () () []
  have hanswer : ((Service.mk (.inProcess ieee fun _ _ _ s => (0, s))
      (none : Option (Reporter Unit))).evaluate (Utf8.decode r.body) ⟨(), (), []⟩).1.answer =
        .ok (.of (1 / 0) [⟨.divide, 1, 0, 1 / 0, 0⟩]) := eq_ok_of_toOption (by decide +kernel)
  obtain ⟨failure, -, -, -, hstatus, hrequests⟩ := hrefines.infinite _ [] _ [] hanswer rfl
    (fun _ h => nomatch h) rfl
  exact ⟨ieee_respectsZeros, hservices, hasks, hfits, hbody, hstatus, hrequests⟩

end Http

end ExprGateway
