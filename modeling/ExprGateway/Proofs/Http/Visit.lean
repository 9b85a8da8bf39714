import ExprGateway.Http.Router
import ExprGateway.Proofs.Evaluation.Course

/-!
# What the status of a response tells

`visit` answers a request with records beside the services and the collector, and sends the report that
waits behind the answer, if there is one.  So a `Visit` is a response with everything that was done for
it: the calls with their answers, and the reports that were attempted.

A request that is not for an evaluation, that is too long or that has no body does nothing
(`handle_of_idle`); its reply depends on no service.  Every other one is a `Course` of the service, and
`Course.tells` reads off it what the status says: 400 that nothing was done, 502 and 504 that the last
call failed, 200 that all operators were computed.  The theorem `status_tells` puts the two together.
-/

namespace ExprGateway.Http

variable {σ κ : Type}

/-! ## Requests that are evaluated -/

/-- A request for an evaluation, by its method and its path. -/
def Request.AsksEvaluation (r : Request) : Prop :=
  r.method = "POST" ∧ (r.path = "/" ∨ r.path = evaluatePath)

/-- A body that is not too long, and that no announced length is a reason to refuse. -/
def Request.Fits (r : Request) : Prop :=
  r.body.length ≤ maxBodyBytes ∧
    ∀ n, r.announcedLength? = some n → n ≤ maxBodyBytes ∧ r.body.length ≤ n

theorem Resource.at?_eq_evaluation_iff {path : String} :
    Resource.at? path = some .evaluation ↔ path = "/" ∨ path = evaluatePath := by
  unfold Resource.at?
  split_ifs with h₁ h₂ <;> simp [h₁]

theorem serve_of_asks {r : Request} (h : r.AsksEvaluation) (s : Service σ κ) (limit : Nat)
    (b : Backends σ κ) :
    serve s limit r b =
      if limit < r.body.length then (⟨tooLong, []⟩, b) else evaluateBody s r.body b := by
  have hpath : Resource.at? r.path = some .evaluation := Resource.at?_eq_evaluation_iff.mpr h.2
  have hmethod : r.method ∈ Resource.evaluation.methods := by simp [h.1, Resource.methods]
  simp only [serve, hpath, hmethod, not_true_eq_false, if_false]

/-- Away from the evaluations the reply depends on the request alone, and nothing is done. -/
theorem serve_of_not_asks {r : Request} (h : ¬ r.AsksEvaluation) (limit : Nat) :
    ∃ reply : Reply, ∀ {σ κ : Type} (s : Service σ κ) (b : Backends σ κ),
      serve s limit r b = (reply, b) := by
  unfold serve
  match hpath : Resource.at? r.path with
  | none => exact ⟨_, fun _ _ => rfl⟩
  | some resource =>
      by_cases hmethod : r.method ∈ resource.methods
      · cases resource with
        | health =>
            refine ⟨⟨(Response.text 200 "ok").answering r.method, []⟩, fun s b => ?_⟩
            simp only [hmethod, not_true_eq_false, if_false]
        | evaluation =>
            exact absurd ⟨List.mem_singleton.mp hmethod, Resource.at?_eq_evaluation_iff.mp hpath⟩ h
      · refine ⟨⟨.bare 405 (some resource.allow), []⟩, fun s b => ?_⟩
        simp only [hmethod, not_false_eq_true, if_true]

theorem handle_of_not_asks {r : Request} (h : ¬ r.AsksEvaluation) :
    ∃ reply : Reply, ∀ {σ κ : Type} (s : Service σ κ) (b : Backends σ κ),
      handle s r b = (reply, b) := by
  unfold handle
  match r.announcedLength? with
  | none => exact serve_of_not_asks h maxBodyBytes
  | some n =>
      by_cases hn : maxBodyBytes < n
      · simp only [hn, if_true]
        exact ⟨_, fun _ _ => rfl⟩
      · simp only [hn, if_false]
        exact serve_of_not_asks h n

theorem handle_of_not_fits {r : Request} (h : r.AsksEvaluation) (hf : ¬ r.Fits) :
    ∃ reply : Reply, reply.response.status = 413 ∧
      ∀ {σ κ : Type} (s : Service σ κ) (b : Backends σ κ), handle s r b = (reply, b) := by
  unfold handle
  match hr : r.announcedLength? with
  | none =>
      have hlong : maxBodyBytes < r.body.length := by
        by_contra hle
        exact hf ⟨by omega, fun n hn => by rw [hr] at hn; cases hn⟩
      refine ⟨⟨tooLong, []⟩, rfl, fun s b => ?_⟩
      simp only [serve_of_asks h, hlong, if_true]
  | some n =>
      by_cases hn : maxBodyBytes < n
      · simp only [hn, if_true]
        refine ⟨_, ?_, fun _ _ => rfl⟩
        simp only [Response.answering, h.1]
        split_ifs <;> rfl
      · have hlong : n < r.body.length := by
          by_contra hle
          refine hf ⟨by omega, fun m hm => ?_⟩
          rw [hr] at hm
          obtain rfl := Option.some.inj hm
          omega
        refine ⟨⟨tooLong, []⟩, rfl, fun s b => ?_⟩
        simp only [serve_of_asks h, hn, hlong, if_true, if_false]

theorem handle_of_fits {r : Request} (h : r.AsksEvaluation) (hf : r.Fits) (s : Service σ κ)
    (b : Backends σ κ) : handle s r b = evaluateBody s r.body b := by
  unfold handle
  match hr : r.announcedLength? with
  | none => simp only [serve_of_asks h, Nat.not_lt.mpr hf.1, if_false]
  | some n =>
      obtain ⟨hn, hb⟩ := hf.2 n hr
      simp only [serve_of_asks h, Nat.not_lt.mpr hn, Nat.not_lt.mpr hb, if_false]

theorem handle_of_empty {r : Request} (h : r.AsksEvaluation) (hf : r.Fits) (he : r.body = [])
    (s : Service σ κ) (b : Backends σ κ) : handle s r b = (⟨.text 200 "", [emptyBody]⟩, b) := by
  rw [handle_of_fits h hf, he]
  rfl

/-- Where nothing is evaluated the reply depends on the request alone, and nothing is done. -/
theorem handle_of_idle {r : Request} (hi : ¬ (r.AsksEvaluation ∧ r.Fits ∧ r.body ≠ [])) :
    ∃ reply : Reply, ∀ {σ κ : Type} (s : Service σ κ) (b : Backends σ κ),
      handle s r b = (reply, b) := by
  by_cases h : r.AsksEvaluation
  · by_cases hf : r.Fits
    · have he : r.body = [] := by
        by_contra he
        exact hi ⟨h, hf, he⟩
      exact ⟨_, handle_of_empty h hf he⟩
    · obtain ⟨reply, -, hreply⟩ := handle_of_not_fits h hf
      exact ⟨reply, hreply⟩
  · exact handle_of_not_asks h

theorem handle_of_body {r : Request} (h : r.AsksEvaluation) (hf : r.Fits) (he : r.body ≠ [])
    (s : Service σ κ) (b : Backends σ κ) :
    (handle s r b).1.response = respond (s.evaluate (Utf8.decode r.body) b).1.answer ∧
      (handle s r b).2 = (s.evaluate (Utf8.decode r.body) b).2 := by
  rw [handle_of_fits h hf]
  unfold evaluateBody
  rw [if_neg (by simpa using he)]
  exact ⟨rfl, rfl⟩

/-! ## Visits -/

/-- A response, the calls that were made for it and the reports that were attempted. -/
structure Visit where
  response : Response
  calls : List Answered
  reports : List Report

/-- The visit from a response and the states behind it: what waits is sent. -/
def Visit.of (s : Service σ κ) (response : Response)
    (b : Backends (σ × List Answered) (κ × List Report)) : Visit :=
  let b := (s.traced.settle b).2
  ⟨response, b.services.2, b.collector.2⟩

/-- A request, answered with records that are empty before it; no report of an earlier one waits. -/
def visit (s : Service σ κ) (r : Request) (services : σ) (collector : κ) : Visit :=
  let (reply, b) := handle s.traced r (Backends.traced ⟨services, collector, []⟩)
  .of s reply.response b

theorem Visit.of_settled (s : Service σ κ) (response : Response)
    {b : Backends (σ × List Answered) (κ × List Report)} (hb : b.waiting = []) :
    Visit.of s response b = ⟨response, b.services.2, b.collector.2⟩ := by
  rw [Visit.of, s.traced.settle_of_waiting_nil hb]

/-- Where nothing is done, there is nothing on the records. -/
theorem visit_of_reply {r : Request} {reply : Reply} (s : Service σ κ) (services : σ) (collector : κ)
    (h : ∀ b, handle s.traced r b = (reply, b)) :
    visit s r services collector = ⟨reply.response, [], []⟩ := by
  rw [visit, h]
  exact Visit.of_settled s reply.response rfl

/-- What the status says of an evaluation, given the text and the answer of the service. -/
structure Tells (s : Service σ κ) (expression : String) (answer : Except EvaluationError Evaluation)
    (v : Visit) : Prop where
  /-- No other status occurs. -/
  status : v.response.status ∈ [200, 400, 502, 504]
  /-- The text is malformed, and nothing was done. -/
  malformed : v.response.status = 400 → v.calls = [] ∧ v.reports = [] ∧
    ∃ defect, compile expression = .error defect ∧ answer = .error (.malformed defect)
  /-- All calls but the last succeeded, and the last failed; there is no report. -/
  failed : v.response.status = 502 ∨ v.response.status = 504 → v.reports = [] ∧
    ∃ (done : List Operation) (call : Call) (failure : RemoteFailure) (durationMs : Float),
      v.calls = done.map Operation.answered ++ [⟨call, ⟨.error failure, durationMs⟩⟩] ∧
      answer = .error (.remote failure) ∧
      (v.response.status = 504 ↔ failure.kind = .timeout)
  /-- Every operator of the text was computed, and the evaluation is the page and the report. -/
  finished : v.response.status = 200 → ∃ (p : Postfix) (e : Evaluation),
    compile expression = .ok p ∧ answer = .ok e ∧
    v.calls = e.operations.map Operation.answered ∧
    e.operations.map Operation.operator = p.operators ∧
    v.response = .text 200 e.page ∧
    v.reports = s.reportsOf ⟨expression, e⟩

/-- A course with an answer and the states behind it, once everything that waits is sent. -/
theorem Course.tells {s : Service σ κ} {expression : String} {services : σ} {collector : κ}
    {answer : Except EvaluationError Evaluation}
    {b : Backends (σ × List Answered) (κ × List Report)}
    (h : Course s expression ⟨services, collector, []⟩ answer b) :
    Tells s expression answer (.of s (respond answer) b) := by
  cases h with
  | malformed defect hp =>
      rw [Visit.of_settled s _ rfl]
      have hstatus : (respond (.error (.malformed defect))).status = 400 := rfl
      exact {
        status := by simp only [hstatus]; decide
        malformed := fun _ => ⟨rfl, rfl, defect, hp, rfl⟩
        failed := fun h => absurd h (by simp only [hstatus]; decide)
        finished := fun h => absurd (hstatus.symm.trans h) (by decide) }
  | failed p operations call durationMs failure services' hp =>
      rw [Visit.of_settled s _ rfl]
      have hstatus : (respond (.error (.remote failure))).status =
        if failure.kind = .timeout then 504 else 502 := rfl
      exact {
        status := by simp only [hstatus]; split_ifs <;> decide
        malformed := fun h => absurd (hstatus.symm.trans h) (by split_ifs <;> decide)
        failed := fun _ => ⟨rfl, operations, call, failure, durationMs, rfl, rfl, by
          simp only [hstatus]; split_ifs with hk <;> simp [hk]⟩
        finished := fun h => absurd (hstatus.symm.trans h) (by split_ifs <;> decide) }
  | finished p operations result services' hp ho =>
      obtain ⟨hs, hc⟩ := s.settle_report ⟨expression, .of result operations⟩
        { Backends.traced ⟨services, collector, []⟩ with
          services := (services', operations.map Operation.answered) } rfl
      have hstatus : (respond (.ok (.of result operations))).status = 200 := rfl
      exact {
        status := by simp only [Visit.of, hstatus]; decide
        malformed := fun h => absurd (hstatus.symm.trans h) (by decide)
        failed := fun h => absurd h (by simp only [Visit.of, hstatus]; decide)
        finished := fun _ => ⟨p, .of result operations, hp, rfl, congrArg Prod.snd hs, ho, rfl,
          hc.trans (List.nil_append _)⟩ }

/-- The records change no response. -/
theorem visit_response (s : Service σ κ) (r : Request) (services : σ) (collector : κ) :
    (visit s r services collector).response =
      (handle s r ⟨services, collector, []⟩).1.response := by
  show (handle s.traced r (Backends.traced ⟨services, collector, []⟩)).1.response = _
  by_cases hi : r.AsksEvaluation ∧ r.Fits ∧ r.body ≠ []
  · obtain ⟨h, hf, he⟩ := hi
    rw [(handle_of_body h hf he _ _).1, (handle_of_body h hf he _ _).1, (s.evaluate_traced _ _).1]
    rfl
  · obtain ⟨reply, hreply⟩ := handle_of_idle hi
    rw [hreply, hreply]

/-- A visit that is an evaluation tells its course by its status. -/
theorem visit_tells {r : Request} (h : r.AsksEvaluation) (hf : r.Fits) (he : r.body ≠ [])
    (s : Service σ κ) (services : σ) (collector : κ) :
    Tells s (Utf8.decode r.body)
      (s.evaluate (Utf8.decode r.body) ⟨services, collector, []⟩).1.answer
      (visit s r services collector) := by
  have htells := Course.tells (s.course (Utf8.decode r.body) ⟨services, collector, []⟩)
  obtain ⟨hresponse, hbackends⟩ :=
    handle_of_body h hf he s.traced (Backends.traced ⟨services, collector, []⟩)
  rw [← hresponse, ← hbackends, (s.evaluate_traced _ _).1] at htells
  exact htells

/-- A call is made and a report attempted only for an evaluation with a body that is not too long.
Requests for evaluations that are too long are refused, those without a body have an empty answer, and of
all others the status tells what was done. -/
theorem status_tells (s : Service σ κ) (r : Request) (services : σ) (collector : κ) :
    let v := visit s r services collector
    v.response = (handle s r ⟨services, collector, []⟩).1.response ∧
    (v.calls ≠ [] ∨ v.reports ≠ [] → r.AsksEvaluation ∧ r.Fits ∧ r.body ≠ []) ∧
    (r.AsksEvaluation → ¬ r.Fits → v.response.status = 413) ∧
    (r.AsksEvaluation → r.Fits → r.body = [] → v = ⟨.text 200 "", [], []⟩) ∧
    (r.AsksEvaluation → r.Fits → r.body ≠ [] →
      Tells s (Utf8.decode r.body)
        (s.evaluate (Utf8.decode r.body) ⟨services, collector, []⟩).1.answer v) := by
  intro v
  refine ⟨visit_response s r services collector, fun hdone => ?_, fun h hf => ?_, fun h hf he => ?_,
    fun h hf he => visit_tells h hf he s services collector⟩
  · by_contra hi
    obtain ⟨reply, hreply⟩ := handle_of_idle hi
    have hv : v = ⟨reply.response, [], []⟩ :=
      visit_of_reply s services collector (hreply s.traced)
    rw [hv] at hdone
    exact hdone.elim (absurd rfl) (absurd rfl)
  · obtain ⟨reply, hstatus, hreply⟩ := handle_of_not_fits h hf
    have hv : v = ⟨reply.response, [], []⟩ :=
      visit_of_reply s services collector (hreply s.traced)
    rw [hv]
    exact hstatus
  · exact visit_of_reply s services collector (handle_of_empty h hf he s.traced)

/-- A body that is announced to be too long is refused even where it turns out to be empty. -/
theorem empty_body_refused :
    let r : Request := ⟨"POST", "/", [("content-length", "70000")], []⟩
    r.AsksEvaluation ∧ r.body = [] ∧
      ∀ s : Service Unit Unit, (visit s r () ()).response.status = 413 := by
  intro r
  have h : r.AsksEvaluation := ⟨rfl, .inl (by decide +kernel)⟩
  have hf : ¬ r.Fits := fun hf => absurd (hf.2 70000 (by decide +kernel)).1 (by decide)
  obtain ⟨reply, hstatus, hreply⟩ := handle_of_not_fits h hf
  refine ⟨h, rfl, fun s => ?_⟩
  rw [visit_of_reply s () () (hreply s.traced)]
  exact hstatus

end ExprGateway.Http
