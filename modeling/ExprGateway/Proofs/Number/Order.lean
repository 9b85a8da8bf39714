import ExprGateway.Proofs.Number.Binary64

/-!
# The order of floats

Positive finite floats are compared by exponent and then by mantissa.  The exponent is the scale of the
rank and the mantissa what is left of the rank above it (`unpack_eq_finite`), so floats are compared as
their ranks are (`compare_finite`).  The absolute value of a float is the float of its rank (`abs_eq`),
and so a test of magnitudes is one of ranks (`ofRank_le_abs_iff`, `abs_lt_ofRank_iff`).
-/

namespace ExprGateway.Binary64

open Float.Model (Format UnpackedFloat)
open Float.Model.UnpackedFloat

variable {i j : Nat}

/-! ## Unpacked ranks -/

/-- What is left of a rank above the scales below it. -/
def mantissa (i : Nat) : Nat := i - scale i * 2 ^ 52

theorem scale_eq (i : Nat) : scale i = i / 2 ^ 52 - 1 := by
  rw [scale, Nat.shiftRight_eq_div_pow]

theorem mantissa_pos (hi : 0 < i) : 0 < mantissa i := by
  rw [mantissa, scale_eq]
  omega

theorem finite_congr {s : Sign} {m m' : Nat} {e e' : Int} {h : 0 < m} (h' : 0 < m') (hm : m = m')
    (he : e = e') : UnpackedFloat.finite s m e h = .finite s m' e' h' := by
  subst hm he
  rfl

theorem toNat_one_append (v : BitVec 52) : (1#1 ++ v).toNat = 2 ^ 52 + v.toNat := by
  rw [BitVec.toNat_append, ← Nat.shiftLeft_add_eq_or_of_lt v.isLt, Nat.shiftLeft_eq]
  rfl

/-- A pattern of a finite number other than zero, unpacked. -/
theorem unpack_eq_finite {b : BitVec Format.binary64.numBits} (hi : b.toNat % 2 ^ 63 = i) (hpos : 0 < i)
    (hlt : i < infinityRank) :
    unpack .binary64 b =
      .finite (Sign.ofBitVec (unpackSign b)) (mantissa i) (scale i - 1074) (mantissa_pos hpos) := by
  rw [infinityRank_eq] at hlt
  have hexp := toNat_unpackExponent b
  have hman := toNat_unpackMantissa b
  have hbias : (Format.binary64.exponentBias : Int) = 1023 := rfl
  have hones : unpackExponent b ≠ -1#11 := by
    rw [ne_eq, unpackExponent_eq_ones_iff]
    omega
  simp only [unpack, if_neg hones, mantissa, scale_eq]
  split_ifs with hzero hzero'
  · rw [unpackMantissa_eq_zero_iff] at hzero'
    rw [hzero, BitVec.toNat_zero] at hexp
    omega
  · rw [hzero, BitVec.toNat_zero] at hexp
    refine finite_congr _ ?_ ?_
    · rw [hman]
      omega
    · rw [hzero, BitVec.toNat_zero, hbias]
      omega
  · have hne : (unpackExponent b).toNat ≠ 0 := fun h => hzero (BitVec.eq_of_toNat_eq h)
    refine finite_congr _ ?_ ?_
    · rw [toNat_one_append, hman]
      omega
    · rw [hexp, hbias]
      omega

theorem unpackSign_of_lt {b : BitVec Format.binary64.numBits} (h : b.toNat < 2 ^ 63) :
    unpackSign b = 0#1 := by
  refine BitVec.eq_of_toNat_eq ?_
  show (b.toNat >>> 63) % 2 ^ 1 = 0
  rw [Nat.shiftRight_eq_div_pow, Nat.div_eq_of_lt h]

theorem unpack_ofRank (hpos : 0 < i) (hlt : i < infinityRank) :
    (ofRank false i).toModel.unpack =
      .finite .positive (mantissa i) (scale i - 1074) (mantissa_pos hpos) := by
  have hbits : (ofRank false i).toModel.toBits.toBitVec.toNat = i := toNat_toBits_ofRank hlt.le
  have hlt' := hlt
  rw [infinityRank_eq] at hlt'
  refine (unpack_eq_finite (by rw [hbits]; omega) hpos hlt).trans ?_
  rw [unpackSign_of_lt (by rw [hbits]; omega)]
  rfl

/-! ## Comparing -/

/-- The order of exponents and then of mantissas is the order of ranks. -/
theorem compare_finite (hi : 0 < i) (hj : 0 < j) :
    UnpackedFloat.compare (.finite .positive (mantissa i) (scale i - 1074) (mantissa_pos hi))
        (.finite .positive (mantissa j) (scale j - 1074) (mantissa_pos hj)) =
      some (compare i j) := by
  refine congrArg some ?_
  rcases lt_trichotomy i j with h | rfl | h
  · rw [Nat.compare_eq_lt.mpr h, Ordering.then_eq_lt, Int.compare_eq_lt, Int.compare_eq_eq,
      Nat.compare_eq_lt, mantissa, mantissa, scale_eq, scale_eq]
    omega
  · rw [Nat.compare_eq_eq.mpr rfl, Nat.compare_eq_eq.mpr rfl, Int.compare_eq_eq.mpr rfl]
    rfl
  · rw [Nat.compare_eq_gt.mpr h, Ordering.then_eq_gt, Int.compare_eq_gt, Int.compare_eq_eq,
      Nat.compare_eq_gt, mantissa, mantissa, scale_eq, scale_eq]
    omega

section Positive

variable (hi : 0 < i) (hi' : i < infinityRank) (hj : 0 < j) (hj' : j < infinityRank)
include hi hi' hj hj'

theorem ofRank_le_iff : ofRank false i ≤ ofRank false j ↔ i ≤ j := by
  have h : ofRank false i ≤ ofRank false j ↔
      UnpackedFloat.le (ofRank false i).toModel.unpack (ofRank false j).toModel.unpack = true :=
    decide_eq_true_iff
  rw [h, UnpackedFloat.le, unpack_ofRank hi hi', unpack_ofRank hj hj', compare_finite hi hj,
    Option.any_some, Nat.isLE_compare]

theorem ofRank_lt_iff : ofRank false i < ofRank false j ↔ i < j := by
  have h : ofRank false i < ofRank false j ↔
      UnpackedFloat.lt (ofRank false i).toModel.unpack (ofRank false j).toModel.unpack = true :=
    decide_eq_true_iff
  rw [h, UnpackedFloat.lt, unpack_ofRank hi hi', unpack_ofRank hj hj', compare_finite hi hj]
  simp [Nat.compare_eq_lt]

end Positive

/-! ## Magnitudes -/

section Magnitude

variable {x : Float}

theorem pack_unpack (m : Float.Model) : Float.Model.pack m.unpack = m := by
  obtain ⟨w, hw⟩ := m
  simp only [Float.Model.pack, Float.Model.unpack, pack_unpack_of_valid hw]

/-- The magnitude of a number is the number of its rank. -/
theorem abs_eq (hx : x.isFinite = true) (hpos : 0 < rank x) : x.abs = ofRank false (rank x) := by
  have hlt := (isFinite_iff x).mp hx
  have habs : x.toModel.unpack.abs = (ofRank false (rank x)).toModel.unpack := by
    rw [unpack_ofRank hpos hlt]
    exact congrArg UnpackedFloat.abs (unpack_eq_finite rfl hpos hlt)
  rw [Float.abs, Float.Model.abs, habs, pack_unpack]

variable (hi : 0 < i) (hi' : i < infinityRank) (hx : x.isFinite = true) (hpos : 0 < rank x)
include hi hi' hx hpos

theorem ofRank_le_abs_iff : ofRank false i ≤ x.abs ↔ i ≤ rank x := by
  rw [abs_eq hx hpos, ofRank_le_iff hi hi' hpos ((isFinite_iff x).mp hx)]

theorem abs_lt_ofRank_iff : x.abs < ofRank false i ↔ rank x < i := by
  rw [abs_eq hx hpos, ofRank_lt_iff hpos ((isFinite_iff x).mp hx) hi hi']

end Magnitude

end ExprGateway.Binary64
