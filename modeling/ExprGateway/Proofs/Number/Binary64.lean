import ExprGateway.Number.Binary64
import Mathlib

/-!
# Floats and their ranks

A float is its sign and its rank: `ofRank_rank` puts them together again, and `rank_ofRank` and
`isNegative_ofRank` take them apart.  The rank also says what kind of number it is, finite below
`infinityRank` (`isFinite_iff`) and no number above it (`isNaN_iff`).

Both are read off the bit pattern, and a pattern can be read off the number it stands for
(`pack_unpack_of_valid`).  That holds of all of them but those of numbers that are none, of which only
one is written; `Format.Valid` is the name for that.
-/

namespace ExprGateway.Binary64

open Float.Model (Format UnpackedFloat)
open Float.Model.UnpackedFloat

theorem signBit_eq : signBit = 2 ^ 63 := rfl

theorem infinityRank_eq : infinityRank = 2047 * 2 ^ 52 := rfl

/-! ## The fields of a bit pattern -/

section Fields

variable (b : BitVec Format.binary64.numBits)

theorem toNat_unpackMantissa : (unpackMantissa b).toNat = b.toNat % 2 ^ 52 := by
  simp [unpackMantissa, BitVec.extractLsb]

theorem toNat_unpackExponent : (unpackExponent b).toNat = b.toNat / 2 ^ 52 % 2 ^ 11 := by
  simp [unpackExponent, BitVec.extractLsb, Nat.shiftRight_eq_div_pow]

theorem unpackMantissa_eq_zero_iff : unpackMantissa b = 0#52 ↔ b.toNat % 2 ^ 52 = 0 := by
  rw [← BitVec.toNat_inj, toNat_unpackMantissa]
  rfl

theorem unpackExponent_eq_ones_iff :
    unpackExponent b = -1#11 ↔ b.toNat / 2 ^ 52 % 2 ^ 11 = 2047 := by
  rw [← BitVec.toNat_inj, toNat_unpackExponent]
  rfl

theorem isFinite_unpack_iff :
    (unpack .binary64 b).isFinite = true ↔ b.toNat / 2 ^ 52 % 2 ^ 11 ≠ 2047 := by
  rw [ne_eq, ← unpackExponent_eq_ones_iff, unpack]
  split_ifs <;> simp_all [UnpackedFloat.isFinite]

theorem isNaN_unpack_iff :
    (unpack .binary64 b).isNaN = true ↔
      b.toNat / 2 ^ 52 % 2 ^ 11 = 2047 ∧ b.toNat % 2 ^ 52 ≠ 0 := by
  rw [ne_eq, ← unpackExponent_eq_ones_iff, ← unpackMantissa_eq_zero_iff, unpack]
  split_ifs <;> simp_all [UnpackedFloat.isNaN]

end Fields

/-! ## Floats and their bits -/

theorem toBits_ofBits {w : UInt64} (h : w.toNat % 2 ^ 63 ≤ 2047 * 2 ^ 52) :
    (Float.ofBits w).toBits = w := by
  have hw : w.toBitVec.toNat % 2 ^ 63 ≤ 2047 * 2 ^ 52 := h
  have hvalid : Format.binary64.Valid w.toBitVec := by
    refine ⟨fun he hm => absurd ?_ hm⟩
    rw [unpackExponent_eq_ones_iff] at he
    rw [unpackMantissa_eq_zero_iff]
    omega
  show UInt64.ofBitVec (UnpackedFloat.pack .binary64 (unpack .binary64 w.toBitVec)) = w
  rw [pack_unpack_of_valid hvalid]

/-! ## Kinds of numbers by rank -/

theorem isFinite_iff (x : Float) : x.isFinite = true ↔ rank x < infinityRank := by
  have hb : x.toBits.toNat < 2 ^ 64 := x.toBits.toNat_lt
  refine (isFinite_unpack_iff x.toModel.toBits.toBitVec).trans ?_
  show x.toBits.toNat / 2 ^ 52 % 2 ^ 11 ≠ 2047 ↔ x.toBits.toNat % 2 ^ 63 < 2047 * 2 ^ 52
  omega

theorem isNaN_iff (x : Float) : x.isNaN = true ↔ infinityRank < rank x := by
  have hb : x.toBits.toNat < 2 ^ 64 := x.toBits.toNat_lt
  refine (isNaN_unpack_iff x.toModel.toBits.toBitVec).trans ?_
  show x.toBits.toNat / 2 ^ 52 % 2 ^ 11 = 2047 ∧ x.toBits.toNat % 2 ^ 52 ≠ 0 ↔
    2047 * 2 ^ 52 < x.toBits.toNat % 2 ^ 63
  omega

theorem isNaN_eq_false {x : Float} (h : rank x ≤ infinityRank) : x.isNaN = false := by
  rw [Bool.eq_false_iff, ne_eq, isNaN_iff]
  omega

/-! ## Sign and rank -/

theorem isNegative_iff (x : Float) : isNegative x = true ↔ 2 ^ 63 ≤ x.toBits.toNat :=
  decide_eq_true_iff

theorem ofRank_rank (x : Float) : ofRank (isNegative x) (rank x) = x := by
  have hb : x.toBits.toNat < 2 ^ 64 := x.toBits.toNat_lt
  have hbits : (if isNegative x then signBit + rank x else rank x) = x.toBits.toNat := by
    have hneg := isNegative_iff x
    rw [rank, signBit_eq]
    split_ifs with h
    · have := hneg.mp h
      omega
    · have := mt hneg.mpr h
      omega
  rw [ofRank, hbits, UInt64.ofNat_toNat, Float.ofBits_toBits]

section OfRank

variable {negative : Bool} {i : Nat}

theorem toNat_toBits_ofRank (h : i ≤ infinityRank) :
    (ofRank negative i).toBits.toNat = if negative then 2 ^ 63 + i else i := by
  rw [infinityRank_eq] at h
  have hw : (UInt64.ofNat (if negative then 2 ^ 63 + i else i)).toNat =
      if negative then 2 ^ 63 + i else i :=
    UInt64.toNat_ofNat_of_lt' (by split_ifs <;> simp only [UInt64.size] <;> omega)
  rw [ofRank, signBit_eq, toBits_ofBits, hw]
  rw [hw]
  split_ifs <;> omega

theorem rank_ofRank (h : i ≤ infinityRank) : rank (ofRank negative i) = i := by
  rw [rank, toNat_toBits_ofRank h, signBit_eq]
  rw [infinityRank_eq] at h
  split_ifs <;> omega

theorem isNegative_ofRank (h : i ≤ infinityRank) : isNegative (ofRank negative i) = negative := by
  rw [infinityRank_eq] at h
  rw [Bool.eq_iff_iff, isNegative_iff, toNat_toBits_ofRank h]
  split_ifs with hn <;> simp [hn]
  omega

end OfRank

end ExprGateway.Binary64
