import ExprGateway.Proofs.Http.Wire

/-!
# The operands of a call

A numeral has no blank in it, so the one blank of a body stands between its two numbers, and a body can
be cut there only (`operandsBody_cut_iff`).  What is known of the text of a number then holds on
either side of the blank: it is read back, and two numbers have one text only if they are the same up to
the sign of zero.
-/

namespace ExprGateway.Http

variable {a b : Float}

theorem count_blank_operandsBody (a b : Float) : (operandsBody a b).toList.count ' ' = 1 := by
  rw [toList_operandsBody, List.count_append, List.count_cons_self,
    List.count_eq_zero.mpr (blank_notMem_formatNumber a),
    List.count_eq_zero.mpr (blank_notMem_formatNumber b)]

/-- The only cut of a body at a blank is the one between its numbers. -/
theorem operandsBody_cut_iff {first second : List Char} :
    (operandsBody a b).toList = first ++ ' ' :: second ↔
      first = (formatNumber a).toList ∧ second = (formatNumber b).toList := by
  rw [toList_operandsBody, List.append_cons_inj_of_notMem (blank_notMem_formatNumber a)
    (blank_notMem_formatNumber b), eq_comm, eq_comm (a := (formatNumber b).toList)]
  simp only [true_and]

/-- The bodies of two calls are one body if the operands are the same numbers, and only then. -/
theorem operandsBody_eq_iff {a' b' : Float} :
    operandsBody a b = operandsBody a' b' ↔ SameNumber a a' ∧ SameNumber b b' := by
  rw [← String.toList_inj, toList_operandsBody a' b', operandsBody_cut_iff, String.toList_inj,
    String.toList_inj, eq_comm, formatNumber_eq_iff, eq_comm, formatNumber_eq_iff]

/-- The operands of a call survive in its body: it has one blank, on either side of which a number is
read back bit for bit but for the sign of zero. -/
theorem operands_survive (ha : a.isFinite = true) (hb : b.isFinite = true) :
    (operandsBody a b).toList.count ' ' = 1 ∧
      (∀ first second, (operandsBody a b).toList = first ++ ' ' :: second →
        readFinite? first = some (unsignZero a) ∧ readFinite? second = some (unsignZero b)) ∧
      ∀ a' b' : Float, a'.isFinite = true → b'.isFinite = true →
        (operandsBody a b = operandsBody a' b' ↔ SameNumber a a' ∧ SameNumber b b') := by
  refine ⟨count_blank_operandsBody a b, fun first second hcut => ?_,
    fun a' b' _ _ => operandsBody_eq_iff⟩
  obtain ⟨rfl, rfl⟩ := operandsBody_cut_iff.mp hcut
  exact ⟨readFinite?_formatNumber ha, readFinite?_formatNumber hb⟩

/-- A zero with a sign, and a number where the exponent begins. -/
theorem operands_survive_exponent :
    (-0.0 : Float).isFinite = true ∧ (1e21 : Float).isFinite = true ∧
      (operandsBody (-0.0) 1e21).toList = "0".toList ++ ' ' :: "1e+21".toList ∧
      readFinite? "0".toList = some 0.0 ∧ readFinite? "1e+21".toList = some 1e21 ∧
      operandsBody (-0.0) 1e21 = operandsBody 0.0 1e21 := by
  have ha : (-0.0 : Float).isFinite = true := by decide
  have hb : (1e21 : Float).isFinite = true := by decide
  have hcut : (operandsBody (-0.0) 1e21).toList = "0".toList ++ ' ' :: "1e+21".toList := by
    decide +kernel
  obtain ⟨-, hread, heq⟩ := operands_survive ha hb
  obtain ⟨hfirst, hsecond⟩ := hread _ _ hcut
  exact ⟨ha, hb, hcut, hfirst, hsecond,
    (heq 0.0 1e21 (by decide) hb).mpr ⟨.inr ⟨by decide, by decide⟩, .refl _⟩⟩

end ExprGateway.Http
