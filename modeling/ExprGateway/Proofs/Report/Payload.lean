import ExprGateway.Proofs.Http.Finite
import ExprGateway.Proofs.Json.ReadBack
import ExprGateway.Report.Payload

/-!
# What the collector can read

The text of a report is JSON, and reading it gives the fields of the report in their order, whatever
characters the expression has (`read?_payload`).  Only a number that is not finite is lost, to `null`.
Where no number is, the text holds all of the report, and two reports with one text are one
(`Report.eq_of_payload_eq`).
-/

namespace ExprGateway

/-- A number as the collector reads it. -/
def Json.ofFloat (x : Float) : Json := if x.isFinite then .number x else .null

/-- An operation as the collector reads it, its numbers in one form or another. -/
def Operation.fields (shown : Float → Json) (x : Operation) : Json :=
  .object [("operator", .string x.operator.symbol.toString), ("name", .string x.operator.name),
    ("a", shown x.a), ("b", shown x.b), ("result", shown x.result),
    ("durationMs", shown x.durationMs)]

/-- A report as the collector reads it, its numbers in one form or another. -/
def Report.fields (shown : Float → Json) (r : Report) : Json :=
  .object [("expression", .string r.expression), ("result", shown r.evaluation.result),
    ("totalDurationMs", shown r.evaluation.totalMs),
    ("operations", .array (r.evaluation.operations.map (Operation.fields shown)))]

/-- A report with finite numbers alone, durations included. -/
structure Report.IsFinite (r : Report) : Prop where
  numbers : r.evaluation.IsFinite
  total : r.evaluation.totalMs.isFinite = true
  durations : ∀ x ∈ r.evaluation.operations, x.durationMs.isFinite = true

theorem Json.ofFloat_eq {x : Float} (hx : x.isFinite = true) : Json.ofFloat x = .number x := if_pos hx

theorem Operation.fields_eq {x : Operation} (h : x.IsFinite) (hms : x.durationMs.isFinite = true) :
    x.fields Json.ofFloat = x.fields .number := by
  simp only [fields, Json.ofFloat_eq h.a, Json.ofFloat_eq h.b, Json.ofFloat_eq h.result,
    Json.ofFloat_eq hms]

variable {r r' : Report}

theorem Report.fields_eq (h : r.IsFinite) : r.fields Json.ofFloat = r.fields .number := by
  have hoperations : r.evaluation.operations.map (Operation.fields Json.ofFloat) =
      r.evaluation.operations.map (Operation.fields .number) :=
    List.map_congr_left fun x hx => Operation.fields_eq (h.numbers.operations x hx) (h.durations x hx)
  simp only [fields, Json.ofFloat_eq h.numbers.result, Json.ofFloat_eq h.total, hoperations]

/-! ## Reading a report -/

theorem writtenElements_measures (xs : List Operation) :
    Json.writtenElements (xs.map Operation.measure) = xs.map (Operation.fields Json.ofFloat) := by
  induction xs with
  | nil => rfl
  | cons x xs ih => rw [List.map_cons, Json.writtenElements, ih]; rfl

theorem fits_measures (xs : List Operation) : Json.FitsElements (xs.map Operation.measure) := by
  induction xs with
  | nil => trivial
  | cons x xs ih => exact ⟨⟨trivial, trivial, trivial, trivial, trivial, trivial, trivial⟩, ih⟩

/-- A report is read as its fields, with `null` for each number that is not finite. -/
theorem read?_payload (r : Report) : Json.read? r.payload = some (r.fields Json.ofFloat) := by
  have hfits : r.measures.Fits := ⟨trivial, trivial, trivial, fits_measures _, trivial⟩
  have hwritten : r.measures.written = r.fields Json.ofFloat := by
    simp only [Report.measures, Report.fields, ← writtenElements_measures]
    rfl
  rw [Report.payload, Json.read?_compact hfits, hwritten]

/-! ## Reports with one text -/

theorem name_injective {o o' : Operator} (h : o.name = o'.name) : o = o' := by
  cases o <;> cases o' <;> first | rfl | exact absurd h (by decide)

theorem Operation.eq_of_fields_eq {x x' : Operation} (h : x.fields .number = x'.fields .number) :
    x = x' := by
  obtain ⟨o, a, b, result, ms⟩ := x
  obtain ⟨o', a', b', result', ms'⟩ := x'
  simp only [fields, Json.object.injEq, List.cons.injEq, Prod.mk.injEq, true_and, and_true,
    Json.string.injEq, Json.number.injEq] at h
  obtain ⟨-, hname, rfl, rfl, rfl, rfl⟩ := h
  rw [name_injective hname]

theorem Report.eq_of_fields_eq (h : r.fields .number = r'.fields .number) : r = r' := by
  obtain ⟨expression, result, operations, total⟩ := r
  obtain ⟨expression', result', operations', total'⟩ := r'
  simp only [fields, Json.object.injEq, List.cons.injEq, Prod.mk.injEq, true_and, and_true,
    Json.string.injEq, Json.number.injEq, Json.array.injEq] at h
  obtain ⟨rfl, rfl, rfl, hoperations⟩ := h
  have hinjective : Function.Injective (Operation.fields .number) := fun _ _ =>
    Operation.eq_of_fields_eq
  rw [List.map_injective_iff.mpr hinjective hoperations]

/-- Of a report with finite numbers the text holds everything. -/
theorem Report.eq_of_payload_eq (h : r.IsFinite) (h' : r'.IsFinite) (heq : r.payload = r'.payload) :
    r = r' := by
  have hread := read?_payload r
  rw [heq, read?_payload r', Option.some.injEq, fields_eq h, fields_eq h'] at hread
  exact (eq_of_fields_eq hread).symm

/-- The text of a report is JSON for its fields, in their order.  Exactly the numbers that are not finite
are `null` in it, and if there are none, no other such report has this text. -/
theorem payload_survives (r : Report) :
    Json.read? r.payload = some (r.fields Json.ofFloat) ∧
      (r.IsFinite → Json.read? r.payload = some (r.fields .number)) ∧
      ∀ r' : Report, r.IsFinite → r'.IsFinite → r.payload = r'.payload → r = r' :=
  ⟨read?_payload r, fun h => Report.fields_eq h ▸ read?_payload r,
    fun _ h h' => Report.eq_of_payload_eq h h'⟩

/-- A report with a quote, a backslash, a control character and a zero with a sign. -/
def oddReport : Report :=
  ⟨"\"\\\x01é", ⟨-0.0, [⟨.divide, 1.0, 1e21, -0.0, 0.25⟩], 0.25⟩⟩

theorem payload_survives_odd :
    oddReport.IsFinite ∧
      Json.read? oddReport.payload = some (oddReport.fields .number) ∧
      oddReport.payload.toList.take 28 = "\x7b\"expression\":\"\\\"\\\\\\u0001é\",".toList ∧
      ∀ r' : Report, r'.IsFinite → oddReport.payload = r'.payload → oddReport = r' := by
  have hoperation : ∀ x ∈ oddReport.evaluation.operations,
      x.IsFinite ∧ x.durationMs.isFinite = true :=
    List.forall_mem_singleton.mpr ⟨⟨by decide, by decide, by decide⟩, by decide⟩
  have hfinite : oddReport.IsFinite :=
    ⟨⟨by decide, fun x hx => (hoperation x hx).1⟩, by decide, fun x hx => (hoperation x hx).2⟩
  obtain ⟨-, hread, hone⟩ := payload_survives oddReport
  exact ⟨hfinite, hread hfinite, by decide +kernel, fun r' h' => hone r' hfinite h'⟩

end ExprGateway
