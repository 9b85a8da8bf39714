import ExprGateway.Evaluation.Client
import ExprGateway.Proofs.Evaluation.Delivery
import ExprGateway.Proofs.Http.Visit
import ExprGateway.Proofs.Text.Utf8

/-!
# Two entrances

A text is evaluated for a client in the same process, or its bytes are posted.  Behind both entrances is
one evaluation (`visit_eq`), so what is left to compare is two ways to tell of its outcome: a response,
and an answer in which errors are texts.  `Conveys` says what they have to do with one another, and
`conveys_respond` is that for every outcome.

A `Consultation` is for the client what a `Visit` is for a request.  Consultations that differ in the
clock, and in the state of the collector, differ in durations at most (`consult_untimed`).
-/

namespace ExprGateway

variable {σ ω ω' κ : Type}

/-! ## Consultations -/

/-- The answer to a client in the same process, the calls that were made for it and the reports that were
attempted. -/
structure Consultation where
  answer : Except ClientError Evaluation
  calls : List Answered
  reports : List Report

/-- A text, evaluated for a client with records that are empty before it; what waits is sent. -/
def consult (s : Service σ κ) (text : String) (services : σ) (collector : κ) : Consultation :=
  let (turn, b) := s.traced.evaluate text (Backends.traced ⟨services, collector, []⟩)
  let b := (s.traced.settle b).2
  ⟨turn.forClient, b.services.2, b.collector.2⟩

/-- The records change no answer. -/
theorem consult_answer (s : Service σ κ) (text : String) (services : σ) (collector : κ) :
    (consult s text services collector).answer =
      (s.evaluate text ⟨services, collector, []⟩).1.forClient :=
  congrArg Turn.forClient (s.evaluate_traced text (Backends.traced ⟨services, collector, []⟩)).1

/-- Once everything that waits is sent, a report was attempted if the answer has a value. -/
theorem Course.settled {s : Service σ κ} {expression : String} {services : σ} {collector : κ}
    {answer : Except EvaluationError Evaluation} {b : Backends (σ × List Answered) (κ × List Report)}
    (h : Course s expression ⟨services, collector, []⟩ answer b) :
    (s.traced.settle b).2.services = b.services ∧
      (s.traced.settle b).2.collector.2 = (reportsDue expression answer).flatMap s.reportsOf := by
  cases h with
  | malformed defect hp =>
      rw [s.traced.settle_of_waiting_nil rfl]
      exact ⟨rfl, rfl⟩
  | failed p operations call durationMs failure services' hp =>
      rw [s.traced.settle_of_waiting_nil rfl]
      exact ⟨rfl, rfl⟩
  | finished p operations result services' hp ho =>
      obtain ⟨hs, hc⟩ := s.settle_report ⟨expression, .of result operations⟩
        { Backends.traced ⟨services, collector, []⟩ with
          services := (services', operations.map Operation.answered) } rfl
      refine ⟨hs.trans (s.traced.services_report _ _).symm, hc.trans ?_⟩
      rw [reportsDue, List.flatMap_singleton]
      rfl

/-- A consultation is an answer, the calls for it, and a report if the answer has a value. -/
theorem consult_eq (s : Service σ κ) (text : String) (services : σ) (collector : κ) :
    let round := (s.round text (Backends.traced ⟨services, collector, []⟩)).1
    consult s text services collector =
      ⟨round.answer.mapError ClientError.of, round.calls, round.due.flatMap s.reportsOf⟩ := by
  intro round
  obtain ⟨hs, hc⟩ := (s.course text ⟨services, collector, []⟩).settled
  exact congrArg₂ (Consultation.mk _) (congrArg Prod.snd hs) hc

/-! ## Times aside -/

def Report.untimed (x : Report) : Report := ⟨x.expression, x.evaluation.untimed⟩

def Consultation.untimed (x : Consultation) : Consultation :=
  ⟨x.answer.map Evaluation.untimed, x.calls.map Answered.untimed, x.reports.map Report.untimed⟩

theorem due_untimed (x : Round) : x.due.map Report.untimed = x.untimed.due := by
  obtain ⟨expression, answer, calls⟩ := x
  cases answer <;> rfl

theorem untimed_reportsOf (s : Service σ κ) (reports : List Report) :
    (reports.flatMap s.reportsOf).map Report.untimed =
      (reports.map Report.untimed).flatMap s.reportsOf := by
  rw [List.map_flatMap, List.flatMap_map]
  congr 1
  funext report
  rw [Service.reportsOf, Service.reportsOf]
  split <;> rfl

theorem untimed_mapError (answer : Except EvaluationError Evaluation) :
    (answer.mapError ClientError.of).map Evaluation.untimed =
      (answer.map Evaluation.untimed).mapError ClientError.of := by
  cases answer <;> rfl

/-- A consultation without its durations is the round of the service without its durations. -/
theorem untimed_consult (s : Service σ κ) (text : String) (services : σ) (collector : κ) :
    let round := (s.round text (Backends.traced ⟨services, collector, []⟩)).1.untimed
    (consult s text services collector).untimed =
      ⟨round.answer.mapError ClientError.of, round.calls, round.due.flatMap s.reportsOf⟩ := by
  intro round
  rw [consult_eq, Consultation.untimed, untimed_mapError, untimed_reportsOf, due_untimed]
  rfl

/-- The clock, and the state of the collector, make no difference but for durations. -/
theorem consult_untimed (port : Port σ) (clock : ω → Float × ω) (clock' : ω' → Float × ω')
    (reporter : Option (Reporter κ)) (text : String) (services : σ) (time : ω) (time' : ω')
    (collector collector' : κ) :
    (consult ⟨port.timed clock, reporter⟩ text (services, time) collector).untimed =
      (consult ⟨port.timed clock', reporter⟩ text (services, time') collector').untimed := by
  have hstart : (Backends.traced ⟨(services, time), collector, []⟩).services.1.1 =
      (Backends.traced ⟨(services, time'), collector', []⟩).services.1.1 := rfl
  have hround := (Service.round_untimed port clock clock' reporter reporter text hstart).1
  rw [untimed_consult, untimed_consult, hround]
  rfl

/-! ## Errors -/

/-- The statuses of a response, where a client in the same process has an error. -/
def ClientError.statuses : ClientError → List Nat
  | malformed _ => [400]
  | remote _ => [502, 504]

namespace Http

/-- A response that tells what a client in the same process is told. -/
structure Conveys (response : Response) (answer : Except ClientError Evaluation) : Prop where
  status : response.status = 200 ↔ ∃ e, answer = .ok e
  /-- The body is the page of the evaluation that the client has, and of those only that have this page. -/
  page : ∀ e : Evaluation, response = .text 200 e.page ↔ ∃ e', answer = .ok e' ∧ e'.page = e.page
  /-- The body is a line with the text of the error that the client has, and of no other. -/
  error : ∀ e : ClientError, answer = .error e ↔
    response.status ∈ e.statuses ∧ response.body = "error: " ++ e.message ++ lineEnd

theorem status_mem_statuses (e : EvaluationError) : statusOf e ∈ (ClientError.of e).statuses := by
  cases e with
  | malformed defect => exact List.mem_singleton_self 400
  | remote failure =>
      simp only [statusOf]
      split <;> simp [ClientError.of, ClientError.statuses]

theorem ok_not_mem_statuses (e : ClientError) : 200 ∉ e.statuses := by
  cases e <;> simp [ClientError.statuses]

/-- Errors of one status that have one text are one. -/
theorem eq_of_statuses {e e' : ClientError} {status : Nat} (h : status ∈ e.statuses)
    (h' : status ∈ e'.statuses) (hmessage : e.message = e'.message) : e = e' := by
  have hapart : ∀ detail detail', status ∈ (ClientError.malformed detail).statuses →
      status ∉ (ClientError.remote detail').statuses := by
    intro detail detail' hmalformed
    obtain rfl := List.mem_singleton.mp hmalformed
    simp [ClientError.statuses]
  cases e with
  | malformed detail =>
      cases e' with
      | malformed detail' => exact congrArg _ ((String.append_right_inj _).mp hmessage)
      | remote detail' => exact absurd h' (hapart detail detail' h)
  | remote detail =>
      cases e' with
      | malformed detail' => exact absurd h (hapart detail' detail h')
      | remote detail' => exact congrArg _ ((String.append_right_inj _).mp hmessage)

theorem conveys_ok (e : Evaluation) : Conveys (respond (.ok e)) (.ok e) where
  status := ⟨fun _ => ⟨e, rfl⟩, fun _ => rfl⟩
  page := by
    intro e'
    constructor
    · exact fun h => ⟨e, rfl, congrArg Response.body h⟩
    · rintro ⟨_, he, hpage⟩
      cases he
      rw [respond, hpage]
  error := fun e' => ⟨fun h => (nomatch h), fun h => absurd h.1 (ok_not_mem_statuses e')⟩

theorem conveys_error (error : EvaluationError) :
    Conveys (respond (.error error)) (.error (ClientError.of error)) := by
  have hstatus : (respond (.error error)).status ∈ (ClientError.of error).statuses :=
    status_mem_statuses error
  have hnot : (respond (.error error)).status ≠ 200 := fun h =>
    ok_not_mem_statuses _ (h ▸ hstatus)
  have hbody : (respond (.error error)).body =
      "error: " ++ (ClientError.of error).message ++ lineEnd := by
    rw [ClientError.message_of]
    rfl
  exact {
    status := ⟨fun h => absurd h hnot, fun ⟨_, h⟩ => nomatch h⟩
    page := fun e => ⟨fun h => absurd (congrArg Response.status h) hnot, fun ⟨_, h, _⟩ => nomatch h⟩
    error := by
      intro e
      constructor
      · intro h
        obtain rfl := Except.error.inj h
        exact ⟨hstatus, hbody⟩
      · rintro ⟨hmem, htext⟩
        have hline := hbody.symm.trans htext
        have hmessage := (String.append_right_inj _).mp ((String.append_left_inj _).mp hline)
        exact congrArg Except.error (eq_of_statuses hstatus hmem hmessage) }

/-- What is said of an outcome at either entrance. -/
theorem conveys_respond (answer : Except EvaluationError Evaluation) :
    Conveys (respond answer) (answer.mapError ClientError.of) := by
  cases answer with
  | ok e => exact conveys_ok e
  | error error => exact conveys_error error

/-! ## Both entrances -/

/-- A posted text is evaluated as it is for a client in the same process. -/
theorem visit_eq {r : Request} {text : String} (h : r.AsksEvaluation) (hf : r.Fits)
    (hbody : r.body.toByteArray = text.toUTF8) (hne : text ≠ "") (s : Service σ κ) (services : σ)
    (collector : κ) :
    let client := consult s text services collector
    visit s r services collector =
      ⟨respond (s.evaluate text ⟨services, collector, []⟩).1.answer, client.calls, client.reports⟩ := by
  intro client
  have htext : Utf8.decode r.body = text := Utf8.decode_of_toUTF8 hbody
  have he : r.body ≠ [] := by
    intro he
    rw [he] at htext
    exact hne htext.symm
  obtain ⟨hresponse, hbackends⟩ :=
    handle_of_body h hf he s.traced (Backends.traced ⟨services, collector, []⟩)
  rw [htext] at hresponse hbackends
  rw [visit]
  dsimp only
  rw [hresponse, hbackends, (s.evaluate_traced text _).1]
  rfl

/-- A text that is posted and the same text from a client in the same process are evaluated with the same
calls and the same reports, and the response tells what the client is told.  Where the client finds
another clock, and the collector in another state, there is no difference but for durations. -/
theorem entrances_agree (port : Port σ) (clock : ω → Float × ω) (clock' : ω' → Float × ω')
    (reporter : Option (Reporter κ)) {r : Request} {text : String} (h : r.AsksEvaluation) (hf : r.Fits)
    (hbody : r.body.toByteArray = text.toUTF8) (hne : text ≠ "") (services : σ) (time : ω) (time' : ω')
    (collector collector' : κ) :
    let s : Service (σ × ω) κ := ⟨port.timed clock, reporter⟩
    let s' : Service (σ × ω') κ := ⟨port.timed clock', reporter⟩
    let v := visit s r (services, time) collector
    let client := consult s text (services, time) collector
    let client' := consult s' text (services, time') collector'
    v.response = (handle s r ⟨(services, time), collector, []⟩).1.response ∧
    client.answer = (s.evaluate text ⟨(services, time), collector, []⟩).1.forClient ∧
    v.calls = client.calls ∧ v.reports = client.reports ∧ Conveys v.response client.answer ∧
    client'.untimed = client.untimed := by
  intro s s' v client client'
  have hv : v = ⟨respond (s.evaluate text ⟨(services, time), collector, []⟩).1.answer, client.calls,
      client.reports⟩ := visit_eq h hf hbody hne s (services, time) collector
  have hanswer := consult_answer s text (services, time) collector
  refine ⟨visit_response s r _ _, hanswer, by rw [hv], by rw [hv], ?_,
    consult_untimed port clock' clock reporter text services time' time collector' collector⟩
  rw [hv, hanswer]
  exact conveys_respond _

/-- At either entrance a sum is one call and one report, the report with the blank of the text. -/
theorem entrances_agree_sum :
    let r : Request := ⟨"POST", "/", [], [0x31, 0x20, 0x2b, 0x32]⟩
    let s : Service (Unit × Unit) Unit :=
      ⟨Service.adding.timed fun t => (0.5, t), some ⟨Service.refusing, .background⟩⟩
    let v := visit s r ((), ()) ()
    let client := consult s "1 +2" ((), ()) ()
    r.AsksEvaluation ∧ r.Fits ∧ r.body.toByteArray = "1 +2".toUTF8 ∧
      v.calls = client.calls ∧ client.calls.map (·.operator) = [.add] ∧
      v.reports = client.reports ∧ client.reports.map Report.expression = ["1 +2"] ∧
      Conveys v.response client.answer := by
  intro r s v client
  have h : r.AsksEvaluation := ⟨rfl, .inl (by decide +kernel)⟩
  have hf : r.Fits := ⟨by decide, fun n hn => by cases hn⟩
  have hbody : r.body.toByteArray = "1 +2".toUTF8 := by
    rw [Utf8.toUTF8_eq, Utf8.toByteArray_inj]
    decide +kernel
  obtain ⟨-, -, hcalls, hreports, hconveys, -⟩ :=
    entrances_agree Service.adding (fun t : Unit => (0.5, t)) (fun t : Unit => (2, t))
      (some ⟨Service.refusing, .background⟩) h hf hbody (by decide) () () () () ()
  exact ⟨h, hf, hbody, hcalls, by decide +kernel, hreports, by decide +kernel, hconveys⟩

end Http

end ExprGateway
