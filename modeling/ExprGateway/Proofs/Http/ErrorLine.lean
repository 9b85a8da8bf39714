import ExprGateway.Proofs.Http.Wire
import ExprGateway.Proofs.Outcomes

/-!
# The line of an error

The response to an expression that fails is meant to be one line.  All of its text is, but for what it
quotes.  A piece of the expression has no blanks left, so no line ends; the address of a service has lost
its line ends when it was read; but the start of a reply is quoted as it came.  So an error response is
one line exactly where the part of the last reply that it quotes has no line end in it
(`error_line_iff`), and a reply can write a line of its own into it (`error_of_two_lines`).
-/

namespace ExprGateway.Http

/-! ## Texts without line ends -/

/-- A text without line ends. -/
abbrev SingleLine (cs : List Char) : Prop := Lacks ['\r', '\n'] cs

theorem singleLine_of_not_blank {cs : List Char} (h : ∀ c ∈ cs, isBlank c = false) : SingleLine cs :=
  lacks_of_forall (p := fun c => !isBlank c) (fun c hc => congrArg (! ·) (h c hc)) rfl

theorem singleLine_toString (n : Nat) : SingleLine (toString n).toList := by
  rw [Nat.toString_eq_ofList_toDigits, String.toList_ofList]
  exact singleLine_of_not_blank fun c hc => isBlank_of_isNumeral (Numeral.digitChars n c hc)

theorem singleLine_name (o : Operator) : SingleLine o.name.toList := by
  cases o <;> decide

theorem singleLine_kind (k : FailureKind) : SingleLine k.text.toList := by
  cases k with
  | transport => decide
  | timeout => decide
  | invalidBody => decide
  | status code =>
      have htext : (FailureKind.status code).text = "returned HTTP " ++ toString code := rfl
      rw [htext, String.toList_append]
      exact lacks_append_iff.mpr ⟨by decide, singleLine_toString code⟩

/-- The text of a failed call is one line if its detail is. -/
theorem singleLine_message_iff (f : RemoteFailure) :
    SingleLine f.message.toList ↔ SingleLine f.detail.toList := by
  have htext : f.message =
    f.operator.name ++ " service " ++ f.kind.text ++ ": " ++ f.detail := rfl
  have hservice : SingleLine " service ".toList := by decide
  have hcolon : SingleLine ": ".toList := by decide
  simp only [htext, String.toList_append, lacks_append_iff, singleLine_name, singleLine_kind,
    hservice, hcolon, true_and]

/-- The text of a defect is one line. -/
theorem singleLine_malformed {expression : String} {defect : Malformed}
    (h : compile expression = .error defect) : SingleLine defect.message.toList := by
  cases defect with
  | empty => decide
  | unbalancedParentheses => decide
  | missingOperand o => cases o <;> decide
  | danglingOperands count =>
      have htext : (Malformed.danglingOperands count).message =
        toString count ++ " values left on the stack, expected exactly one" := rfl
      rw [htext, String.toList_append]
      exact lacks_append_iff.mpr ⟨singleLine_toString count, by decide⟩
  | invalidToken piece index =>
      have htext : (Malformed.invalidToken piece index).message =
        "invalid token '" ++ piece ++ "' at index " ++ toString index := rfl
      have hfront : SingleLine "invalid token '".toList := by decide
      have hback : SingleLine "' at index ".toList := by decide
      simp only [htext, String.toList_append, lacks_append_iff, hfront, hback,
        singleLine_toString, singleLine_of_not_blank (piece_of_compile h), and_self]

/-! ## What is quoted -/

/-- What the detail of a failure quotes of the reply. -/
def quoted : Exchange → List Char
  | .silent _ | .broken _ _ => []
  | .complete status body =>
    let text := Utf8.decode body
    (preview (if isSuccess status then trim text else text)).toList

/-- The detail of a failure is one line if what it quotes is. -/
theorem singleLine_detail_iff {o : Operator} {url : Url} {x : Exchange} {f : RemoteFailure}
    (hurl : SingleLine url.text.toList) (h : readResult o url x = .error f) :
    SingleLine f.detail.toList ↔ SingleLine (quoted x) := by
  have hnil : SingleLine [] := by decide
  cases x with
  | silent timedOut =>
      obtain rfl := Except.error.inj h
      have htext : unsent url = "error sending request for url (" ++ url.text ++ ")" := rfl
      have hfront : SingleLine "error sending request for url (".toList := by decide
      have hback : SingleLine ")".toList := by decide
      simp only [htext, String.toList_append, lacks_append_iff, hfront, hurl, hback, quoted, hnil,
        and_self]
  | broken status timedOut =>
      obtain rfl := Except.error.inj h
      have htext : SingleLine undecoded.toList := by decide
      simp only [htext, quoted, hnil]
  | complete status body =>
      simp only [readResult] at h
      split_ifs at h with hstatus
      · obtain rfl := Except.error.inj h
        have hfails : isSuccess status = false := by simpa using hstatus
        simp only [quoted, hfails, Bool.false_eq_true, if_false]
      · have hsuccess : isSuccess status = true := by simpa using hstatus
        split at h
        · cases h
        · obtain rfl := Except.error.inj h
          have hfront : SingleLine "'".toList := by decide
          have hback : SingleLine "' is not a finite number".toList := by decide
          have htext : s!"'{preview (trim (Utf8.decode body))}' is not a finite number" =
            "'" ++ preview (trim (Utf8.decode body)) ++ "' is not a finite number" := rfl
          simp only [htext, String.toList_append, lacks_append_iff, hfront, hback, true_and,
            and_true, quoted, hsuccess, if_true]

/-! ## Addresses -/

theorem toList_of_read {text : String} {u : Url} (h : Url.read text = .ok u) :
    u.text.toList = Url.clean text.toList := by
  unfold Url.read at h
  cases hs : Url.splitScheme? (Url.clean text.toList) with
  | none =>
      simp only [hs] at h
      cases h
  | some parts =>
      simp only [hs] at h
      have hu : (⟨String.ofList (Url.clean text.toList)⟩ : Url) = u := by
        split at h
        · obtain ⟨-, -, h⟩ := bind_eq_ok_iff.mp h
          exact Except.ok.inj h
        · obtain ⟨-, -, h⟩ := bind_eq_ok_iff.mp h
          exact Except.ok.inj h
        · split at h
          · obtain ⟨-, -, h⟩ := bind_eq_ok_iff.mp h
            exact Except.ok.inj h
          · exact Except.ok.inj h
      rw [← hu, String.toList_ofList]

theorem singleLine_of_read {text : String} {u : Url} (h : Url.read text = .ok u) :
    SingleLine u.text.toList := by
  rw [toList_of_read h]
  simp [Lacks, Url.clean]

theorem operations_of_ofConfig {config : GatewayConfig} {g : Gateway}
    (h : Gateway.ofConfig config = .ok g) :
    Gateway.operationClient config = .ok g.operations := by
  unfold Gateway.ofConfig at h
  obtain ⟨operations, hoperations, h⟩ := bind_eq_ok_iff.mp h
  rw [mapError_eq_ok_iff.mp hoperations]
  split_ifs at h
  · obtain ⟨client, -, h⟩ := bind_eq_ok_iff.mp h
    exact congrArg _ (congrArg Gateway.operations (Except.ok.inj h))
  · exact congrArg _ (congrArg Gateway.operations (Except.ok.inj h))

/-- The addresses of a configured gateway are single lines. -/
theorem singleLine_endpoint {config : GatewayConfig} {g : Gateway}
    (h : Gateway.ofConfig config = .ok g) (o : Operator) :
    SingleLine (g.operations.endpoint o).text.toList := by
  have hclient := operations_of_ofConfig h
  unfold Gateway.operationClient at hclient
  obtain ⟨sum, hsum, hclient⟩ := bind_eq_ok_iff.mp hclient
  obtain ⟨subtraction, hsubtraction, hclient⟩ := bind_eq_ok_iff.mp hclient
  obtain ⟨multiplication, hmultiplication, hclient⟩ := bind_eq_ok_iff.mp hclient
  obtain ⟨division, hdivision, hclient⟩ := bind_eq_ok_iff.mp hclient
  rw [← Except.ok.inj hclient]
  cases o with
  | add => exact singleLine_of_read hsum
  | subtract => exact singleLine_of_read hsubtraction
  | multiply => exact singleLine_of_read hmultiplication
  | divide => exact singleLine_of_read hdivision

/-! ## Responses -/

/-- A text that is one line of an error: it starts as one, and its end is the only line end. -/
def OneLine (body : String) : Prop :=
  "error: ".toList <+: body.toList ∧ lineEnd.toList <:+ body.toList ∧
    SingleLine body.toList.dropLast.dropLast

instance (body : String) : Decidable (OneLine body) := inferInstanceAs (Decidable (_ ∧ _ ∧ _))

theorem oneLine_error_iff (text : String) :
    OneLine (s!"error: {text}" ++ lineEnd) ↔ SingleLine text.toList := by
  have hlist : (s!"error: {text}" ++ lineEnd).toList =
      "error: ".toList ++ text.toList ++ lineEnd.toList := by
    rw [String.toList_append, String.toList_append]
    rfl
  have hdrop : ∀ cs : List Char, (cs ++ lineEnd.toList).dropLast.dropLast = cs := by
    intro cs
    have hend : lineEnd.toList = ['\r'] ++ ['\n'] := rfl
    rw [hend, ← List.append_assoc, List.dropLast_concat, List.dropLast_concat]
  have hfront : SingleLine "error: ".toList := by decide
  rw [OneLine, hlist, hdrop, List.append_assoc]
  exact ⟨fun h => (lacks_append_iff.mp h.2.2).2, fun h => ⟨List.prefix_append _ _,
    (List.suffix_append _ _).trans (List.suffix_append _ _), lacks_append_iff.mpr ⟨hfront, h⟩⟩⟩

theorem body_respond (e : EvaluationError) :
    (respond (.error e)).body = s!"error: {e.message}" ++ lineEnd := rfl

theorem oneLine_of_malformed {expression : String} {defect : Malformed}
    (h : compile expression = .error defect) :
    OneLine (respond (.error (.malformed defect))).body := by
  have htext : (EvaluationError.malformed defect).message =
    "malformed expression: " ++ defect.message := rfl
  have hfront : SingleLine "malformed expression: ".toList := by decide
  rw [body_respond, oneLine_error_iff, htext, String.toList_append]
  exact lacks_append_iff.mpr ⟨hfront, singleLine_malformed h⟩

theorem oneLine_of_remote_iff {o : Operator} {url : Url} {x : Exchange} {f : RemoteFailure}
    (hurl : SingleLine url.text.toList) (h : readResult o url x = .error f) :
    OneLine (respond (.error (.remote f))).body ↔ SingleLine (quoted x) := by
  have htext : (EvaluationError.remote f).message = "remote operation failed: " ++ f.message := rfl
  have hfront : SingleLine "remote operation failed: ".toList := by decide
  rw [body_respond, oneLine_error_iff, htext, String.toList_append, ← singleLine_detail_iff hurl h,
    ← singleLine_message_iff]
  exact lacks_append_iff.trans (and_iff_right hfront)

variable {τ κ : Type}

/-- The response to an expression that fails is one line, unless the start of the last reply, which it
quotes, has a line end in it. -/
theorem error_line_iff {config : GatewayConfig} {g : Gateway} (hg : Gateway.ofConfig config = .ok g)
    (toServices : Connection τ) (toCollector : Connection κ) {r : Request} (h : r.AsksEvaluation)
    (hfits : r.Fits) (hne : r.body ≠ []) (t : τ) (collector : κ) (waiting : List Report) :
    let there := handle (g.service toServices.traced toCollector) r ⟨(t, []), collector, waiting⟩
    there.1.response.status ≠ 200 →
      (there.1.response.status = 400 ∧ there.2.services.2 = [] ∧ OneLine there.1.response.body) ∨
      ∃ earlier o a b exchange,
        there.2.services.2 = earlier ++ [(g.operations.request o a b, exchange)] ∧
        (OneLine there.1.response.body ↔ SingleLine (quoted exchange)) := by
  intro there hstatus
  obtain ⟨answer, hresponse, hcourse⟩ :=
    handle_wire g toServices toCollector h hfits hne t collector waiting
  change there.1.response = _ at hresponse
  rw [hresponse] at hstatus ⊢
  generalize there.2.services.2 = exchanges at hcourse ⊢
  cases hcourse with
  | malformed defect hp => exact .inl ⟨rfl, rfl, oneLine_of_malformed hp⟩
  | failed p operations earlier o a b exchange failure _ _ hlast =>
      exact .inr ⟨earlier, o, a, b, exchange, rfl,
        oneLine_of_remote_iff (singleLine_endpoint hg o) hlast⟩
  | finished => exact absurd rfl hstatus

/-! ## One reply -/

/-- A connection on which every request gets the same reply. -/
def replying (status : Nat) (text : String) : Connection Unit where
  exchange _ _ := (.complete status text.toUTF8.toList, 0, ())

/-- A gateway to services on this machine, without reports. -/
def loopbackConfig : GatewayConfig where
  operations := .under "http://[::1]:8081"
  metrics := { enabled := false }

def loopback : Gateway :=
  match Gateway.ofConfig loopbackConfig with
  | .ok g => g
  | .error _ => ⟨⟨fun _ => ⟨""⟩, 0⟩, none⟩

theorem loopback_eq : Gateway.ofConfig loopbackConfig = .ok loopback := by
  have hsome : (Gateway.ofConfig loopbackConfig).toOption.isSome = true := by decide +kernel
  unfold loopback
  cases h : Gateway.ofConfig loopbackConfig with
  | ok g => rfl
  | error fault =>
      rw [h] at hsome
      cases hsome

/-- What becomes of `1+2` where every request gets the same reply. -/
def sumWith (status : Nat) (text : String) :
    Reply × Backends (Unit × List (Outgoing × Exchange)) Unit :=
  handle (loopback.service (replying status text).traced (replying 200 ""))
    ⟨"POST", "/", [], "1+2".toUTF8.toList⟩ ⟨((), []), (), []⟩

/-- A reply of one line is quoted in one line. -/
theorem error_line_of_refusal :
    (sumWith 503 "down").1.response.status = 502 ∧ OneLine (sumWith 503 "down").1.response.body := by
  have hstatus : (sumWith 503 "down").1.response.status = 502 := by decide +kernel
  have hlast : (sumWith 503 "down").2.services.2.map Prod.snd =
    [.complete 503 "down".toUTF8.toList] := by decide +kernel
  have hasks : Request.AsksEvaluation ⟨"POST", "/", [], "1+2".toUTF8.toList⟩ :=
    ⟨rfl, .inl (by decide +kernel)⟩
  have hfits : Request.Fits ⟨"POST", "/", [], "1+2".toUTF8.toList⟩ :=
    ⟨by decide +kernel, fun n hn => by cases hn⟩
  refine ⟨hstatus, ?_⟩
  rcases error_line_iff loopback_eq (replying 503 "down") (replying 200 "") hasks hfits
    (by decide +kernel) () () [] (fun h => absurd (hstatus.symm.trans h) (by decide)) with
    ⟨h400, -, -⟩ | ⟨earlier, o, a, b, exchange, hlog, hiff⟩
  · exact absurd (hstatus.symm.trans h400) (by decide)
  · have hexchange : exchange = .complete 503 "down".toUTF8.toList := by
      change (sumWith 503 "down").2.services.2 = _ at hlog
      rw [hlog, List.map_append] at hlast
      have hconcat : [] ++ [.complete 503 "down".toUTF8.toList] = earlier.map Prod.snd ++ [exchange] :=
        hlast.symm
      exact (List.singleton_inj.mp (List.append_inj_right' hconcat rfl)).symm
    rw [hexchange] at hiff
    exact hiff.mpr (by decide +kernel)

/-- A reply of two lines is quoted in two lines, and the second one reads as a result. -/
theorem error_of_two_lines :
    (sumWith 503 "down\r\nresult = 42").1.response.body =
        "error: remote operation failed: Sum service returned HTTP 503: down\r\nresult = 42\r\n" ∧
      ¬ OneLine (sumWith 503 "down\r\nresult = 42").1.response.body := by
  have hbody : (sumWith 503 "down\r\nresult = 42").1.response.body =
      "error: remote operation failed: Sum service returned HTTP 503: down\r\nresult = 42\r\n" := by
    decide +kernel
  refine ⟨hbody, ?_⟩
  rw [hbody]
  decide

end ExprGateway.Http
