import ExprGateway.Proofs.Expression.Alphabet
import ExprGateway.Proofs.Http.Visit
import ExprGateway.Proofs.Text.Utf8

/-!
# Bodies that are no text

Nothing asks whether the bytes of a body are UTF-8.  They are decoded with replacement, and the
replacement is neither blank nor a character of any token: so a body that is no UTF-8 becomes an
expression that is refused for a piece of it (`compile_of_not_valid`), before any call.  A body whose
expression compiles has lost nothing, and what is reported of it is what was posted (`toUTF8_of_compile`).
-/

namespace ExprGateway.Http

variable {σ κ : Type}

/-- What has the replacement in it does not compile. -/
theorem compile_of_replacement {expression : String} (h : Utf8.replacement ∈ expression.toList) :
    ∃ piece index, compile expression = .error (.invalidToken piece index) := by
  obtain ⟨piece, index, ht⟩ := tokenize_of_foreign h (by decide) (by decide)
  exact ⟨piece, index, by rw [compile, ht]; rfl⟩

/-- Bytes that are no UTF-8 do not compile, wherever they stand. -/
theorem compile_of_not_valid {bytes : List UInt8} (h : ¬ bytes.toByteArray.IsValidUTF8) :
    ∃ piece index, compile (Utf8.decode bytes) = .error (.invalidToken piece index) :=
  compile_of_replacement (Utf8.replacement_mem_of_not_valid h)

/-- An expression that compiles has the bytes that it was decoded from. -/
theorem toUTF8_of_compile {bytes : List UInt8} {p : Postfix}
    (h : compile (Utf8.decode bytes) = .ok p) : (Utf8.decode bytes).toUTF8 = bytes.toByteArray := by
  refine Utf8.toUTF8_decode fun hreplaced => ?_
  obtain ⟨piece, index, hrefused⟩ := compile_of_replacement hreplaced
  cases h.symm.trans hrefused

/-- A body that does not compile is answered with its defect, and nothing is done for it. -/
theorem visit_of_malformed {r : Request} (h : r.AsksEvaluation) (hf : r.Fits) (he : r.body ≠ [])
    {defect : Malformed} (hdefect : compile (Utf8.decode r.body) = .error defect)
    (s : Service σ κ) (services : σ) (collector : κ) :
    visit s r services collector = ⟨respond (.error (.malformed defect)), [], []⟩ := by
  obtain ⟨hresponse, hbackends⟩ :=
    handle_of_body h hf he s.traced (Backends.traced ⟨services, collector, []⟩)
  rw [s.traced.evaluate_of_malformed hdefect] at hresponse hbackends
  rw [visit]
  dsimp only
  rw [hresponse, hbackends]
  exact Visit.of_settled s _ rfl

/-- A request for an evaluation whose body is no UTF-8 is answered with 400 for a piece of it, without a
call and without a report.  And where a request for an evaluation with a body succeeds, the expression
that is reported has the bytes of the body. -/
theorem undecodable_refused (s : Service σ κ) {r : Request} (h : r.AsksEvaluation) (services : σ)
    (collector : κ) :
    let v := visit s r services collector
    (r.Fits → ¬ r.body.toByteArray.IsValidUTF8 →
      ∃ piece index, compile (Utf8.decode r.body) = .error (.invalidToken piece index) ∧
        v = ⟨respond (.error (.malformed (.invalidToken piece index))), [], []⟩ ∧
        v.response.status = 400) ∧
    (r.body ≠ [] → v.response.status = 200 →
      v.reports.map (·.expression.toUTF8) = if s.reporter.isSome then [r.body.toByteArray] else []) := by
  intro v
  constructor
  · intro hf hbytes
    have he : r.body ≠ [] := by
      intro he
      rw [he] at hbytes
      exact hbytes ByteArray.isValidUTF8_empty
    obtain ⟨piece, index, hdefect⟩ := compile_of_not_valid hbytes
    have hv : v = ⟨respond (.error (.malformed (.invalidToken piece index))), [], []⟩ :=
      visit_of_malformed h hf he hdefect s services collector
    refine ⟨piece, index, hdefect, hv, ?_⟩
    rw [hv]
    rfl
  · intro he hstatus
    by_cases hf : r.Fits
    · obtain ⟨p, e, hp, -, -, -, -, hreports⟩ :=
        (visit_tells h hf he s services collector).finished hstatus
      rw [hreports, Service.reportsOf]
      split
      · rw [List.map_singleton, toUTF8_of_compile hp]
      · rfl
    · obtain ⟨reply, hlong, hreply⟩ := handle_of_not_fits h hf
      have hv : v = ⟨reply.response, [], []⟩ := visit_of_reply s services collector (hreply s.traced)
      rw [hv] at hstatus
      cases hlong.symm.trans hstatus

/-- A digit and the first byte of a longer character that does not follow: the piece is quoted with the
replacement in it. -/
theorem undecodable_refused_truncated :
    let r : Request := ⟨"POST", evaluatePath, [], [0x31, 0xe2, 0x82]⟩
    r.AsksEvaluation ∧ r.Fits ∧ ¬ r.body.toByteArray.IsValidUTF8 ∧
      ∀ s : Service Unit Unit,
        (visit s r () ()).response =
          respond (.error (.malformed (.invalidToken (String.ofList ['1', Utf8.replacement]) 0))) ∧
        (visit s r () ()).response.status = 400 := by
  intro r
  have h : r.AsksEvaluation := ⟨rfl, .inr (by decide +kernel)⟩
  have hf : r.Fits := ⟨by decide, fun n hn => by cases hn⟩
  have hbytes : ¬ r.body.toByteArray.IsValidUTF8 := by
    rw [Utf8.isValidUTF8_iff]
    decide
  refine ⟨h, hf, hbytes, fun s => ?_⟩
  obtain ⟨piece, index, hpiece, hv, hstatus⟩ := (undecodable_refused s h () ()).1 hf hbytes
  have hcompile : compile (Utf8.decode r.body) =
      .error (.invalidToken (String.ofList ['1', Utf8.replacement]) 0) := by decide +kernel
  rw [hcompile] at hpiece
  cases hpiece
  exact ⟨congrArg Visit.response hv, hstatus⟩

end ExprGateway.Http
