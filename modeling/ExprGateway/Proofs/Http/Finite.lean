import ExprGateway.Proofs.Http.Wire

/-!
# Only finite numbers

A number comes into an evaluation as a literal of the expression or as the reply of a service, and at
both entrances what is not finite is turned away (`finite_of_compile`, `isFinite_of_readResult`).  In
between numbers are only moved: onto the stack, into a request, into an operation.  So the invariant
is a likeness of an evaluation with itself: `Likeness.finite` is equality of finite numbers, and
`operations_finite_alike` is the step.

`only_finite_numbers` says what follows for everything that is written.  Finite numbers are written as
numerals, and a numeral has no letter but `e`; so there is no `NaN` and no infinity in a request or in
a page, and no `null` for a number in a report.
-/

namespace ExprGateway

/-- An operation of finite numbers. -/
structure Operation.IsFinite (x : Operation) : Prop where
  a : x.a.isFinite = true
  b : x.b.isFinite = true
  result : x.result.isFinite = true

/-- An evaluation with finite numbers alone, durations aside. -/
structure Evaluation.IsFinite (e : Evaluation) : Prop where
  result : e.result.isFinite = true
  operations : ∀ x ∈ e.operations, x.IsFinite

/-- Alike is equal and finite; durations are finite if the clock is right. -/
def Likeness.finite (clockRight : Prop) : Likeness where
  value x y := x = y ∧ x.isFinite = true
  duration ms _ := clockRight → ms.isFinite = true
  failure := Eq

namespace Likeness

variable {clockRight : Prop}

theorem finite_operations {xs xs' : List Operation}
    (h : List.Forall₂ (finite clockRight).SameOperation xs xs') :
    ∀ x ∈ xs, x.IsFinite ∧ (clockRight → x.durationMs.isFinite = true) := by
  induction h with
  | nil => exact fun _ hx => nomatch hx
  | cons hx _ ih =>
      exact List.forall_mem_cons.mpr ⟨⟨⟨hx.a.2, hx.b.2, hx.result.2⟩, hx.duration⟩, ih⟩

theorem finite_attempt {t t' : Attempt} (h : (finite clockRight).SameAttempt t t') :
    ∀ x ∈ t.operations, x.IsFinite := by
  cases h with
  | finished hdone _ => exact fun x hx => (finite_operations hdone x hx).1
  | failed hdone _ => exact fun x hx => (finite_operations hdone x hx).1

theorem finite_outcome {t t' : Except EvaluationError Evaluation}
    (h : (finite clockRight).SameOutcome t t') {e : Evaluation} (he : t = .ok e) :
    e.IsFinite ∧ (clockRight → ∀ x ∈ e.operations, x.durationMs.isFinite = true) := by
  cases h with
  | error => cases he
  | ok hdone hx =>
      obtain rfl := Except.ok.inj he
      have hoperations := finite_operations hdone
      exact ⟨⟨hx.2, fun x hx => (hoperations x hx).1⟩,
        fun hclock x hx => (hoperations x hx).2 hclock⟩

end Likeness

namespace Http

variable {τ κ : Type}

/-! ## Calls -/

/-- What is read from a reply is finite. -/
theorem isFinite_of_readResult {o : Operator} {url : Url} {x : Exchange} {y : Float}
    (h : readResult o url x = .ok y) : y.isFinite = true := by
  cases x with
  | silent timedOut => cases h
  | broken status timedOut => cases h
  | complete status body =>
      simp only [readResult] at h
      split_ifs at h
      cases hz : readFinite? (trimBlanks (Utf8.decode body).toList) with
      | none =>
          rw [hz] at h
          cases h
      | some z =>
          rw [hz] at h
          exact Except.ok.inj h ▸ isFinite_of_readFinite? hz

/-- A request with two finite operands, which can be read again as two finite numbers. -/
structure FiniteRequest (c : OperationClient) (r : Outgoing) : Prop where
  operands : ∃ o a b, r = c.request o a b ∧ a.isFinite = true ∧ b.isFinite = true
  body : ∃ a b, operands? r.body.toList = some (a, b) ∧ a.isFinite = true ∧ b.isFinite = true

theorem finiteRequest_request (c : OperationClient) (o : Operator) {a b : Float}
    (ha : a.isFinite = true) (hb : b.isFinite = true) : FiniteRequest c (c.request o a b) := by
  obtain ⟨a', b', hread, hsameA, hsameB⟩ := exists_operands?_operandsBody ha b
  exact ⟨⟨o, a, b, rfl, ha, hb⟩, a', b', hread, hsameA.isFinite_iff.mp ha, hsameB.isFinite_iff.mp hb⟩

/-- Finite operands go out in a request, and a finite number comes back. -/
theorem operations_finite_alike (c : OperationClient) (connection : Connection τ) :
    (c.operations connection.traced).Alike
      (.finite (∀ r t, (connection.exchange r t).2.1.isFinite = true))
      (fun t t' => t = t' ∧ ∀ x ∈ t.2, FiniteRequest c x.1) (c.operations connection.traced) := by
  rintro o a _ b _ ⟨t, exchanges⟩ _ ⟨rfl, ha⟩ ⟨rfl, hb⟩ ⟨rfl, hexchanges⟩
  refine ⟨?_, rfl, ?_⟩
  · simp only [OperationClient.operations, Connection.traced]
    cases hresult : readResult o (c.endpoint o) (connection.exchange (c.request o a b) t).1 with
    | ok y => exact .ok ⟨rfl, isFinite_of_readResult hresult⟩ fun hclock => hclock _ _
    | error f => exact .error rfl
  · refine List.forall_mem_append.mpr ⟨hexchanges, List.forall_mem_singleton.mpr ?_⟩
    exact finiteRequest_request c o ha hb

/-! ## Pages -/

/-- A text without the letters that only numbers that are not finite have. -/
abbrev Clear (cs : List Char) : Prop := Lacks ['N', 'f'] cs

theorem clear_of_numeral {cs : List Char} (h : Numeral cs) : Clear cs :=
  lacks_of_forall h rfl

theorem clear_formatNumber {x : Float} (hx : x.isFinite = true) : Clear (formatNumber x).toList :=
  clear_of_numeral (numeral_formatNumber hx)

theorem clear_line {x : Operation} (h : x.IsFinite) (hms : x.durationMs.isFinite = true) :
    Clear x.line.toList := by
  have hname : Clear x.operator.name.toList := by cases x.operator <;> decide
  have hsymbol : Clear (toString x.operator.symbol).toList := by cases x.operator <;> decide
  have htiming : Clear x.timing.toList := clear_of_numeral (Numeral.fixed hms 3)
  unfold Operation.line
  simp only [String.toList_append, lacks_append_iff, and_assoc]
  exact ⟨hname, by decide, clear_formatNumber h.a, by decide, hsymbol, by decide,
    clear_formatNumber h.b, by decide, clear_formatNumber h.result, by decide, htiming, by decide⟩

theorem clear_page {e : Evaluation} (h : e.IsFinite)
    (hms : ∀ x ∈ e.operations, x.durationMs.isFinite = true) : Clear e.page.toList := by
  have hlines : Clear (String.join (e.operations.map fun x => x.line ++ lineEnd)).toList := by
    intro c hc hmem
    rw [String.toList_join, List.flatMap_map, List.mem_flatMap] at hmem
    obtain ⟨x, hx, hmem⟩ := hmem
    rw [String.toList_append] at hmem
    have hline : Clear (x.line.toList ++ lineEnd.toList) :=
      lacks_append_iff.mpr ⟨clear_line (h.operations x hx) (hms x hx), by decide⟩
    exact hline c hc hmem
  unfold Evaluation.page
  simp only [String.toList_append, lacks_append_iff, and_assoc]
  exact ⟨by decide, clear_formatNumber h.result, by decide, by decide, by decide, hlines⟩

/-- The texts of numbers that are not finite. -/
def notFinite : List String := ["NaN", "inf", "Infinity"]

theorem absent_of_clear {cs : List Char} (h : Clear cs) :
    ∀ word ∈ notFinite, ¬ word.toList <:+: cs := by
  have hletter : ∀ word ∈ notFinite, 'N' ∈ word.toList ∨ 'f' ∈ word.toList := by decide
  intro word hword hinside
  rcases hletter word hword with hN | hf
  · exact h 'N' (by decide) (hinside.subset hN)
  · exact h 'f' (by decide) (hinside.subset hf)

end Http

/-! ## Reports -/

mutual

/-- The values of all fields with a name, however deep. -/
def Json.named (name : String) : Json → List Json
  | .array elements => namedElements name elements
  | .object fields => namedFields name fields
  | _ => []

def Json.namedElements (name : String) : List Json → List Json
  | [] => []
  | v :: rest => v.named name ++ namedElements name rest

def Json.namedFields (name : String) : List (String × Json) → List Json
  | [] => []
  | (field, v) :: rest =>
    (if field = name then [v] else []) ++ v.named name ++ namedFields name rest

end

/-- The fields of a report for the numbers of an evaluation. -/
def numberFields : List String := ["result", "a", "b"]

theorem Operation.named_measure {x : Operation} (h : x.IsFinite) {name : String}
    (hname : name ∈ numberFields) :
    ∀ v ∈ x.measure.named name, ∃ y : Float, v = .number y ∧ y.isFinite = true := by
  have hfields : x.measure.named "result" = [.number x.result] ∧
      x.measure.named "a" = [.number x.a] ∧ x.measure.named "b" = [.number x.b] := by
    simp [measure, Json.named, Json.namedFields]
  simp only [numberFields, List.mem_cons, List.not_mem_nil, or_false] at hname
  rcases hname with rfl | rfl | rfl
  · rw [hfields.1, List.forall_mem_singleton]
    exact ⟨_, rfl, h.result⟩
  · rw [hfields.2.1, List.forall_mem_singleton]
    exact ⟨_, rfl, h.a⟩
  · rw [hfields.2.2, List.forall_mem_singleton]
    exact ⟨_, rfl, h.b⟩

theorem Operation.named_measures {xs : List Operation} (h : ∀ x ∈ xs, x.IsFinite) {name : String}
    (hname : name ∈ numberFields) :
    ∀ v ∈ Json.namedElements name (xs.map measure), ∃ y : Float, v = .number y ∧ y.isFinite = true := by
  induction xs with
  | nil => exact fun _ hv => nomatch hv
  | cons x xs ih =>
      rw [List.forall_mem_cons] at h
      exact List.forall_mem_append.mpr ⟨named_measure h.1 hname, ih h.2⟩

theorem Report.named_measures {r : Report} (h : r.evaluation.IsFinite) {name : String}
    (hname : name ∈ numberFields) :
    ∀ v ∈ r.measures.named name, ∃ y : Float, v = .number y ∧ y.isFinite = true := by
  have hfields : r.measures.named name =
      (if "result" = name then [.number r.evaluation.result] else []) ++
        Json.namedElements name (r.evaluation.operations.map Operation.measure) := by
    simp only [numberFields, List.mem_cons, List.not_mem_nil, or_false] at hname
    rcases hname with rfl | rfl | rfl <;> simp [measures, Json.named, Json.namedFields]
  rw [hfields]
  refine List.forall_mem_append.mpr ⟨?_, Operation.named_measures h.operations hname⟩
  split_ifs with hresult
  · exact List.forall_mem_singleton.mpr ⟨_, rfl, h.result⟩
  · exact fun _ hv => nomatch hv

theorem Json.compact_ne_null {x : Float} (hx : x.isFinite = true) :
    (Json.number x).compact ≠ "null" := by
  intro hnull
  have hchars : Style.json.chars x = "null".toList := by
    rw [← hnull, Json.compact, String.toList_ofList]
    rfl
  have hnumeral := Numeral.json_chars hx
  rw [hchars] at hnumeral
  exact absurd (hnumeral 'n' (by decide)) (by decide)

namespace Http

variable {τ κ : Type} (g : Gateway) (toServices : Connection τ) (toCollector : Connection κ)

/-- Nothing is posted but the report that is handed over. -/
theorem posted_of_report (report : Report) {b : Backends τ (κ × List (Outgoing × Exchange))}
    (hw : b.waiting = []) (hc : b.collector.2 = []) :
    let s := g.service toServices toCollector.traced
    ∀ x ∈ (s.settle (s.report report b).2).2.collector.2, x.1.body = report.payload := by
  obtain ⟨services, ⟨collector, posted⟩, waiting⟩ := b
  obtain rfl : waiting = [] := hw
  obtain rfl : posted = [] := hc
  obtain ⟨operations, metrics⟩ := g
  match metrics with
  | none => exact fun _ hx => nomatch hx
  | some (client, .inline) => exact List.forall_mem_singleton.mpr rfl
  | some (client, .background) => exact List.forall_mem_singleton.mpr rfl

/-- What is posted to the collector is the report of the answer. -/
theorem posted_of_evaluate (expression : String) (t : τ) (collector : κ) :
    let s := g.service toServices toCollector.traced
    let there := s.evaluate expression ⟨t, (collector, []), []⟩
    ∀ x ∈ (s.settle there.2).2.collector.2,
      ∃ e, there.1.answer = .ok e ∧ x.1.body = (Report.mk expression e).payload := by
  intro s there x hx
  cases hp : compile expression with
  | error defect =>
      simp only [there, s.evaluate_of_malformed hp] at hx
      rw [s.settle_of_waiting_nil rfl] at hx
      cases hx
  | ok p =>
      match ht : p.evaluate s.operations t with
      | (attempt, services) =>
          cases ha : attempt.answer with
          | error e =>
              simp only [there, s.evaluate_of_failed (b := ⟨t, (collector, []), []⟩) hp ht ha] at hx
              rw [s.settle_of_waiting_nil rfl] at hx
              cases hx
          | ok e =>
              simp only [there, s.evaluate_of_ok (b := ⟨t, (collector, []), []⟩) hp ht ha] at hx ⊢
              exact ⟨e, rfl, posted_of_report g toServices toCollector ⟨expression, e⟩ rfl rfl x hx⟩

/-- A page is clear if the evaluation is; no other response to a request for an evaluation is a
success, but for that to an empty body. -/
theorem clear_response {r : Request} (h : r.AsksEvaluation) (s : Service τ κ) (b : Backends τ κ)
    (hpage : ∀ e, (s.evaluate (Utf8.decode r.body) b).1.answer = .ok e → Clear e.page.toList) :
    (handle s r b).1.response.status = 200 → Clear (handle s r b).1.response.body.toList := by
  intro hstatus
  by_cases hfits : r.Fits
  · by_cases hne : r.body = []
    · rw [handle_of_empty h hfits hne]
      exact fun _ _ hc => nomatch hc
    · rw [(handle_of_body h hfits hne s b).1] at hstatus ⊢
      cases hanswer : (s.evaluate (Utf8.decode r.body) b).1.answer with
      | ok e => exact hpage e hanswer
      | error error =>
          rw [hanswer] at hstatus
          have hfails : statusOf error ≠ 200 := by
            cases error with
            | malformed defect => exact show 400 ≠ 200 by decide
            | remote f =>
                simp only [statusOf]
                split_ifs <;> decide
          exact absurd hstatus hfails
  · obtain ⟨reply, hrefused, hreply⟩ := handle_of_not_fits h hfits
    rw [hreply, hrefused] at hstatus
    exact absurd hstatus (by decide)

/-- All numbers of an evaluation over a connection are finite, whatever the replies: the operands that
are sent and those that are read of a request, the operations that are recorded, up to a failure if
there is one, and the result.  A page has no text of a number that is not finite in it, if no duration
is measured that is not, and no number of an evaluation is reported as `null`. -/
theorem only_finite_numbers (expression : String) (t : τ) (collector : κ) :
    let s := g.service toServices.traced toCollector.traced
    let start : Backends (τ × List (Outgoing × Exchange)) (κ × List (Outgoing × Exchange)) :=
      ⟨(t, []), (collector, []), []⟩
    let there := s.evaluate expression start
    (∀ x ∈ there.2.services.2, FiniteRequest g.operations x.1) ∧
    (∀ p, compile expression = .ok p →
      ∀ x ∈ (p.evaluate s.operations start.services).1.operations, x.IsFinite) ∧
    (∀ e, there.1.answer = .ok e → e.IsFinite) ∧
    ((∀ r t, (toServices.exchange r t).2.1.isFinite = true) →
      ∀ r : Request, r.AsksEvaluation → Utf8.decode r.body = expression →
        (handle s r start).1.response.status = 200 →
        ∀ word ∈ notFinite, ¬ word.toList <:+: (handle s r start).1.response.body.toList) ∧
    (∀ x ∈ (s.settle there.2).2.collector.2, ∃ e, there.1.answer = .ok e ∧
      x.1.body = (Report.mk expression e).payload ∧
      ∀ name ∈ numberFields, ∀ v ∈ (Report.mk expression e).measures.named name,
        v.compact ≠ "null") := by
  intro s start there
  have halike := operations_finite_alike g.operations toServices
  have hnone : ∀ x ∈ start.services.2, FiniteRequest g.operations x.1 := fun _ hx => nomatch hx
  obtain ⟨hsame, -, hrequests⟩ :=
    s.answer_alike start s start halike (fun x hx => ⟨rfl, hx⟩) ⟨rfl, hnone⟩ expression
  have hfinite := fun e => Likeness.finite_outcome (e := e) hsame
  refine ⟨hrequests, fun p hp => ?_, fun e he => (hfinite e he).1, fun hclock r h hr hstatus => ?_,
    fun x hx => ?_⟩
  · obtain ⟨hattempt, -⟩ := Postfix.evaluate_alike halike
      (fun x hx => ⟨rfl, finite_of_compile hp hx⟩) (s := start.services) ⟨rfl, hnone⟩
    exact Likeness.finite_attempt hattempt
  · subst hr
    refine absent_of_clear (clear_response h s start (fun e he => ?_) hstatus)
    exact clear_page (hfinite e he).1 ((hfinite e he).2 hclock)
  · obtain ⟨e, he, hbody⟩ :=
      posted_of_evaluate g toServices.traced toCollector expression (t, []) collector x hx
    refine ⟨e, he, hbody, fun name hname v hv => ?_⟩
    obtain ⟨y, rfl, hy⟩ :=
      Report.named_measures (r := ⟨expression, e⟩) (hfinite e he).1 hname v hv
    exact Json.compact_ne_null hy

/-- A connection on which every request is answered by three. -/
def threes : Connection Unit where
  exchange _ _ := (.complete 200 "3".toUTF8.toList, 0.5, ())

/-- A gateway that reports in the background. -/
def reporting : Gateway :=
  ⟨⟨fun o => ⟨s!"http://localhost/{o.name}"⟩, 1000⟩,
    some (⟨⟨"http://localhost/measures"⟩, 1000⟩, .background)⟩

/-- One call, one page and one report of three. -/
theorem only_finite_numbers_three :
    let s := reporting.service threes.traced threes.traced
    let start : Backends (Unit × List (Outgoing × Exchange)) (Unit × List (Outgoing × Exchange)) :=
      ⟨((), []), ((), []), []⟩
    let r : Request := ⟨"POST", "/", [], "1+2".toUTF8.toList⟩
    let there := handle s r start
    (there.1.response.status = 200 ∧
      ∀ word ∈ notFinite, ¬ word.toList <:+: there.1.response.body.toList) ∧
    (there.2.services.2.length = 1 ∧
      ∀ x ∈ there.2.services.2, FiniteRequest reporting.operations x.1) := by
  intro s start r there
  have hasks : r.AsksEvaluation := ⟨rfl, .inl (by decide +kernel)⟩
  have hfits : r.Fits := ⟨by decide +kernel, fun n hn => by cases hn⟩
  have hstatus : there.1.response.status = 200 := by decide +kernel
  have hlength : there.2.services.2.length = 1 := by decide +kernel
  have hhalf : (0.5 : Float).isFinite = true := by decide +kernel
  have hclock : ∀ (r : Outgoing) (t : Unit), (threes.exchange r t).2.1.isFinite = true :=
    fun _ _ => hhalf
  obtain ⟨hrequests, -, -, hpage, -⟩ :=
    only_finite_numbers reporting threes threes (Utf8.decode r.body) () ()
  refine ⟨⟨hstatus, hpage hclock r hasks rfl hstatus⟩, hlength, ?_⟩
  have hthere : there.2 = (s.evaluate (Utf8.decode r.body) start).2 :=
    (handle_of_body hasks hfits (by decide +kernel) s start).2
  rw [hthere]
  exact hrequests

end Http

end ExprGateway
