import ExprGateway.Proofs.Number.Shortest
import Mathlib.Tactic.Linarith

/-!
# Rounding to the nearest double

`Nearest x i` says what it is to round `x` correctly: no double is nearer to `x` than that of rank `i`,
and where another is equally near, `i` is even.  The rank of infinity counts as the number `2 ^ 1024`
that would come next, so overflow begins half a unit above the largest double.

A rank is nearest if `x` lies between the midpoints on either side of it (`nearest_of_midpoints`), and
that is what rounding a quotient to 53 bits achieves (`nearest_nearestRank`).  So the rank of a decimal
is nearest to its value, those included that are decided without their power of ten
(`Decimal.nearest_rank`).

All that is said of the reading of decimals elsewhere rests on one consequence: a nearest rank grows
with the number (`Nearest.mono`), so the numbers that are read as one double are an interval around it
(`Decimal.rank_eq_of_between`).
-/

namespace ExprGateway

namespace Binary64

/-! ## Values of ranks -/

/-- A mantissa with a scale has the rank that counts the scales below it; a mantissa that has just
become too long belongs to the next scale by itself. -/
theorem units_of_mantissa {s m : Nat} (hm : m ≤ 2 ^ 53) (hlead : s = 0 ∨ 2 ^ 52 ≤ m) :
    units (s * 2 ^ 52 + m) = m * 2 ^ s := by
  rw [units, scale, Nat.shiftRight_eq_div_pow, Nat.shiftLeft_eq, Nat.shiftLeft_eq]
  rcases Nat.lt_or_ge m (2 ^ 52) with hshort | hlong
  · obtain rfl : s = 0 := hlead.resolve_right (by omega)
    have hs : (0 * 2 ^ 52 + m) / 2 ^ 52 - 1 = 0 := by omega
    rw [hs, Nat.zero_mul, Nat.zero_add, Nat.sub_zero]
  · rcases Nat.lt_or_eq_of_le hm with hlt | rfl
    · have hs : (s * 2 ^ 52 + m) / 2 ^ 52 - 1 = s := by omega
      rw [hs, Nat.add_sub_cancel_left]
    · have hs : (s * 2 ^ 52 + 2 ^ 53) / 2 ^ 52 - 1 = s + 1 := by omega
      have hm' : s * 2 ^ 52 + 2 ^ 53 - (s + 1) * 2 ^ 52 = 2 ^ 52 := by omega
      rw [hs, hm']
      ring

/-- A rank and the next one differ by one in the last place of the lower one. -/
theorem exists_units_succ (i : Nat) :
    ∃ s m, i = s * 2 ^ 52 + m ∧ m < 2 ^ 53 ∧ units i = m * 2 ^ s ∧ units (i + 1) = (m + 1) * 2 ^ s := by
  obtain ⟨s, m, rfl, hm, hlead, hu⟩ := exists_units i
  refine ⟨s, m, rfl, hm, hu, ?_⟩
  rw [Nat.add_assoc]
  exact units_of_mantissa (by omega) (by omega)

theorem units_lt_succ (i : Nat) : units i < units (i + 1) := by
  obtain ⟨s, m, -, -, hu, hu'⟩ := exists_units_succ i
  rw [hu, hu']
  exact Nat.mul_lt_mul_of_pos_right (Nat.lt_succ_self m) (by positivity)

theorem strictMono_units : StrictMono units := strictMono_nat_of_lt_succ units_lt_succ

theorem units_infinityRank : units infinityRank = 2 ^ 2098 := by
  have h : units (2046 * 2 ^ 52 + 2 ^ 52) = 2 ^ 52 * 2 ^ 2046 :=
    units_of_mantissa (by decide) (.inr le_rfl)
  rw [show 2098 = 52 + 2046 from rfl, pow_add]
  exact h

/-- The least positive double. -/
def unit : ℚ := (2 ^ 1074)⁻¹

theorem unit_pos : 0 < unit := by
  rw [unit]
  positivity

/-- The number that a rank stands for. -/
def value (i : Nat) : ℚ := units i * unit

theorem strictMono_value : StrictMono value := fun _ _ h =>
  mul_lt_mul_of_pos_right (Nat.cast_lt.mpr (strictMono_units h)) unit_pos

theorem value_infinityRank : value infinityRank = 2 ^ 1024 := by
  have h : (2 : ℚ) ^ 2098 = 2 ^ 1024 * 2 ^ 1074 := pow_add 2 1024 1074
  rw [value, unit, units_infinityRank, Nat.cast_pow, Nat.cast_ofNat, h,
    mul_inv_cancel_right₀ (by positivity)]

/-! ## The nearest rank -/

/-- Rank `i` is that of the double nearest to a number, the even one of two that are equally near. -/
structure Nearest (x : ℚ) (i : Nat) : Prop where
  le_infinity : i ≤ infinityRank
  closest : ∀ j ≤ infinityRank, |x - value i| ≤ |x - value j|
  even : ∀ j ≤ infinityRank, j ≠ i → |x - value j| = |x - value i| → Even i

section Nearest

variable {x y : ℚ} {i j : Nat}

/-- Which of two numbers is nearer is decided by their midpoint. -/
theorem dist_left_le_iff {a b : ℚ} (h : a < b) : |x - a| ≤ |x - b| ↔ 2 * x ≤ a + b := by
  rcases abs_cases (x - a) with ⟨ha, _⟩ | ⟨ha, _⟩ <;>
    rcases abs_cases (x - b) with ⟨hb, _⟩ | ⟨hb, _⟩ <;>
    rw [ha, hb] <;> constructor <;> intro <;> linarith

theorem dist_right_le_iff {a b : ℚ} (h : a < b) : |x - b| ≤ |x - a| ↔ a + b ≤ 2 * x := by
  rcases abs_cases (x - a) with ⟨ha, _⟩ | ⟨ha, _⟩ <;>
    rcases abs_cases (x - b) with ⟨hb, _⟩ | ⟨hb, _⟩ <;>
    rw [ha, hb] <;> constructor <;> intro <;> linarith

/-- Between the midpoints on either side, and at one of them only if even, a rank is nearest. -/
theorem nearest_of_midpoints (hi : i ≤ infinityRank)
    (below : ∀ j, j + 1 = i → value j + value i ≤ 2 * x ∧ (value j + value i = 2 * x → Even i))
    (above : i < infinityRank →
      2 * x ≤ value i + value (i + 1) ∧ (2 * x = value i + value (i + 1) → Even i)) :
    Nearest x i := by
  have hleft : ∀ j, j < i →
      |x - value i| ≤ |x - value j| ∧ (|x - value j| = |x - value i| → Even i) := by
    intro j hj
    obtain ⟨k, rfl⟩ : ∃ k, k + 1 = i := ⟨i - 1, by omega⟩
    have hjk : value j ≤ value k := strictMono_value.monotone (by omega)
    have hlt : value j < value (k + 1) := strictMono_value hj
    obtain ⟨hle, heven⟩ := below k rfl
    refine ⟨(dist_right_le_iff hlt).mpr (by linarith), fun heq => heven ?_⟩
    have := (dist_left_le_iff hlt).mp heq.le
    linarith
  have hright : ∀ j, i < j → j ≤ infinityRank →
      |x - value i| ≤ |x - value j| ∧ (|x - value j| = |x - value i| → Even i) := by
    intro j hj hinf
    have hjk : value (i + 1) ≤ value j := strictMono_value.monotone hj
    have hlt : value i < value j := strictMono_value hj
    obtain ⟨hle, heven⟩ := above (by omega)
    refine ⟨(dist_left_le_iff hlt).mpr (by linarith), fun heq => heven ?_⟩
    have := (dist_right_le_iff hlt).mp heq.le
    linarith
  refine ⟨hi, fun j hj => ?_, fun j hj hne => ?_⟩
  · rcases lt_trichotomy j i with h | rfl | h
    · exact (hleft j h).1
    · exact le_rfl
    · exact (hright j h hj).1
  · rcases lt_or_gt_of_ne hne with h | h
    · exact (hleft j h).2
    · exact (hright j h hj).2

/-- The nearest rank grows with the number.  Two numbers that were rounded the wrong way round would
both be the midpoint, and both ranks even, so a rank between them would be nearer. -/
theorem Nearest.mono (h : Nearest x i) (h' : Nearest y j) (hxy : x ≤ y) : i ≤ j := by
  by_contra hlt
  have hji : value j < value i := strictMono_value (by omega)
  have hx := (dist_right_le_iff hji).mp (h.closest j h'.le_infinity)
  have hy := (dist_left_le_iff hji).mp (h'.closest i h.le_infinity)
  obtain rfl : x = y := by linarith
  have htie : |x - value j| = |x - value i| :=
    le_antisymm ((dist_left_le_iff hji).mpr hy) ((dist_right_le_iff hji).mpr hx)
  have hi : Even i := h.even j h'.le_infinity (by omega) htie
  have hj : Even j := h'.even i h.le_infinity (by omega) htie.symm
  have hnext : j + 1 < i := by
    rw [Nat.even_iff] at hi hj
    omega
  have hbetween := (dist_right_le_iff (strictMono_value hnext)).mp
    (h.closest (j + 1) (hnext.le.trans h.le_infinity))
  have : value j < value (j + 1) := strictMono_value (Nat.lt_succ_self j)
  linarith

theorem Nearest.unique (h : Nearest x i) (h' : Nearest x j) : i = j :=
  le_antisymm (h.mono h' le_rfl) (h'.mono h le_rfl)

theorem nearest_value (hi : i ≤ infinityRank) : Nearest (value i) i := by
  refine nearest_of_midpoints hi (fun j hj => ?_) fun _ => ?_
  · have : value j < value i := strictMono_value (by omega)
    exact ⟨by linarith, fun h => by linarith⟩
  · have : value i < value (i + 1) := strictMono_value (Nat.lt_succ_self i)
    exact ⟨by linarith, fun h => by linarith⟩

theorem nearest_infinity (h : value infinityRank ≤ x) : Nearest x infinityRank := by
  refine nearest_of_midpoints le_rfl (fun j hj => ?_) fun h => absurd h (lt_irrefl _)
  have : value j < value infinityRank := strictMono_value (by omega)
  exact ⟨by linarith, fun h => by linarith⟩

/-- Up to half of the least positive double, zero is nearest. -/
theorem nearest_zero (h : 2 * x ≤ unit) : Nearest x 0 := by
  refine nearest_of_midpoints (Nat.zero_le _) (fun j hj => absurd hj (Nat.succ_ne_zero j)) fun _ => ?_
  have hsum : value 0 + value 1 = unit := by
    rw [value, value, show units 0 = 0 from rfl, show units 1 = 1 from rfl]
    simp
  rw [hsum]
  exact ⟨h, fun _ => ⟨0, rfl⟩⟩

end Nearest

/-! ## Rounding a quotient -/

/-- A rounded quotient is at most half too small, and half too small only if even. -/
theorem le_roundDiv (n : Nat) {d : Nat} (hd : 0 < d) :
    2 * n ≤ (2 * roundDiv n d + 1) * d ∧ (2 * n = (2 * roundDiv n d + 1) * d → Even (roundDiv n d)) := by
  have hdiv := Nat.div_add_mod n d
  have hmod := Nat.mod_lt n hd
  simp only [roundDiv, Nat.even_iff]
  generalize n / d = q at *
  generalize n % d = r at *
  split_ifs with hlow hhigh
  · rw [show (2 * q + 1) * d = 2 * (d * q) + d by ring]
    exact ⟨by omega, fun h => by omega⟩
  · rw [show (2 * (q + 1) + 1) * d = 2 * (d * q) + 3 * d by ring]
    exact ⟨by omega, fun h => by omega⟩
  · rcases Nat.mod_two_eq_zero_or_one q with hq | hq <;> rw [hq]
    · rw [show (2 * (q + 0) + 1) * d = 2 * (d * q) + d by ring]
      exact ⟨by omega, fun _ => by omega⟩
    · rw [show (2 * (q + 1) + 1) * d = 2 * (d * q) + 3 * d by ring]
      exact ⟨by omega, fun _ => by omega⟩

/-- A rounded quotient is at most half too large, and half too large only if even. -/
theorem roundDiv_le (n : Nat) {d : Nat} (hd : 0 < d) :
    2 * roundDiv n d * d ≤ 2 * n + d ∧ (2 * roundDiv n d * d = 2 * n + d → Even (roundDiv n d)) := by
  have hdiv := Nat.div_add_mod n d
  have hmod := Nat.mod_lt n hd
  simp only [roundDiv, Nat.even_iff]
  generalize n / d = q at *
  generalize n % d = r at *
  split_ifs with hlow hhigh
  · rw [show 2 * q * d = 2 * (d * q) by ring]
    exact ⟨by omega, fun h => by omega⟩
  · rw [show 2 * (q + 1) * d = 2 * (d * q) + 2 * d by ring]
    exact ⟨by omega, fun h => by omega⟩
  · rcases Nat.mod_two_eq_zero_or_one q with hq | hq <;> rw [hq]
    · rw [show 2 * (q + 0) * d = 2 * (d * q) by ring]
      exact ⟨by omega, fun _ => by omega⟩
    · rw [show 2 * (q + 1) * d = 2 * (d * q) + 2 * d by ring]
      exact ⟨by omega, fun _ => by omega⟩

/-- How many bits of a quotient are cut. -/
def cutBits (n den : Nat) : Nat := (n / den).log2 - 52

/-- What is left after the cut has 53 bits, or fewer if nothing was cut. -/
theorem cutBits_spec (n : Nat) {den : Nat} (hden : 0 < den) :
    n < 2 ^ 53 * (den * 2 ^ cutBits n den) ∧
      (cutBits n den = 0 ∨ 2 ^ 52 * (den * 2 ^ cutBits n den) ≤ n) := by
  rw [cutBits]
  have hswap : ∀ a b : Nat, 2 ^ a * (den * 2 ^ b) = 2 ^ (a + b) * den := fun a b => by
    rw [pow_add]
    ring
  rw [hswap, hswap, ← Nat.div_lt_iff_lt_mul hden, ← Nat.le_div_iff_mul_le hden]
  generalize n / den = q
  rcases Nat.eq_zero_or_pos q with rfl | hq
  · exact ⟨by positivity, .inl rfl⟩
  constructor
  · rw [← Nat.log2_lt hq.ne']
    omega
  · rcases Nat.lt_or_ge q.log2 53 with hlt | hge
    · exact .inl (by omega)
    · refine .inr ((Nat.le_log2 hq.ne').mp ?_)
      omega

section Quotient

variable (n : Nat) {den : Nat} (hden : 0 < den)

/-- The rank of a rounded quotient, as if there were no largest double. -/
def looseRank (n den : Nat) : Nat :=
  cutBits n den * 2 ^ 52 + roundDiv n (den * 2 ^ cutBits n den)

theorem nearestRank_eq (num den : Nat) :
    nearestRank num den = min infinityRank (looseRank (num <<< 1074) den) := by
  simp only [nearestRank, looseRank, cutBits, Nat.shiftLeft_eq]

include hden

theorem units_looseRank_bounds :
    roundDiv n (den * 2 ^ cutBits n den) ≤ 2 ^ 53 ∧
      (cutBits n den = 0 ∨ 2 ^ 52 ≤ roundDiv n (den * 2 ^ cutBits n den)) := by
  obtain ⟨hlt, hle⟩ := cutBits_spec n hden
  generalize cutBits n den = k at *
  have hd : 0 < den * 2 ^ k := by positivity
  have hlow := (le_roundDiv n hd).1
  have hhigh := (roundDiv_le n hd).1
  generalize den * 2 ^ k = d at *
  generalize roundDiv n d = r at *
  constructor
  · by_contra hr
    have : (2 ^ 53 + 1) * d ≤ r * d := Nat.mul_le_mul_right d (by omega)
    nlinarith
  · refine hle.imp_right fun hle => ?_
    by_contra hr
    have : (r + 1) * d ≤ 2 ^ 52 * d := Nat.mul_le_mul_right d (by omega)
    nlinarith

theorem units_looseRank :
    units (looseRank n den) = roundDiv n (den * 2 ^ cutBits n den) * 2 ^ cutBits n den := by
  obtain ⟨hle, hlead⟩ := units_looseRank_bounds n hden
  exact units_of_mantissa hle hlead

omit hden in
theorem even_looseRank_iff :
    Even (looseRank n den) ↔ Even (roundDiv n (den * 2 ^ cutBits n den)) := by
  rw [looseRank, Nat.even_iff, Nat.even_iff]
  omega

/-- The quotient is not above the midpoint behind its rank. -/
theorem le_units_looseRank :
    2 * n ≤ (units (looseRank n den) + units (looseRank n den + 1)) * den ∧
      (2 * n = (units (looseRank n den) + units (looseRank n den + 1)) * den →
        Even (looseRank n den)) := by
  obtain ⟨hle, hlead⟩ := units_looseRank_bounds n hden
  have hunits := units_looseRank n hden
  rw [even_looseRank_iff n]
  have hd : 0 < den * 2 ^ cutBits n den := by positivity
  rcases Nat.lt_or_eq_of_le hle with hlt | heq
  · have hnext : units (looseRank n den + 1) =
        (roundDiv n (den * 2 ^ cutBits n den) + 1) * 2 ^ cutBits n den := by
      rw [looseRank, Nat.add_assoc]
      exact units_of_mantissa (by omega) (by omega)
    rw [hunits, hnext]
    have hmid : (roundDiv n (den * 2 ^ cutBits n den) * 2 ^ cutBits n den +
        (roundDiv n (den * 2 ^ cutBits n den) + 1) * 2 ^ cutBits n den) * den =
        (2 * roundDiv n (den * 2 ^ cutBits n den) + 1) * (den * 2 ^ cutBits n den) := by ring
    rw [hmid]
    exact le_roundDiv n hd
  · -- the mantissa was carried to its full length, so the quotient is not even above the rank
    have hn := (cutBits_spec n hden).1
    have hup : units (looseRank n den) * den ≤ units (looseRank n den + 1) * den :=
      Nat.mul_le_mul_right den (units_lt_succ _).le
    rw [heq] at hunits
    rw [hunits] at hup ⊢
    rw [show 2 ^ 53 * (den * 2 ^ cutBits n den) = 2 ^ 53 * 2 ^ cutBits n den * den by ring] at hn
    rw [Nat.add_mul]
    exact ⟨by omega, fun h => by omega⟩

/-- The quotient is not below the midpoint in front of its rank. -/
theorem units_looseRank_le {j : Nat} (hj : j + 1 = looseRank n den) :
    (units j + units (looseRank n den)) * den ≤ 2 * n ∧
      ((units j + units (looseRank n den)) * den = 2 * n → Even (looseRank n den)) := by
  obtain ⟨hle, hlead⟩ := units_looseRank_bounds n hden
  have hunits := units_looseRank n hden
  rw [even_looseRank_iff n]
  have hd : 0 < den * 2 ^ cutBits n den := by positivity
  by_cases hlast : cutBits n den ≠ 0 ∧ roundDiv n (den * 2 ^ cutBits n den) = 2 ^ 52
  · -- the first mantissa of its scale: the quotient is not even below the rank
    obtain ⟨hne, heq⟩ := hlast
    have hn := (cutBits_spec n hden).2.resolve_left hne
    have hdown : units j * den < units (looseRank n den) * den :=
      Nat.mul_lt_mul_of_pos_right (hj ▸ units_lt_succ j) hden
    rw [heq] at hunits
    rw [hunits] at hdown ⊢
    rw [show 2 ^ 52 * (den * 2 ^ cutBits n den) = 2 ^ 52 * 2 ^ cutBits n den * den by ring] at hn
    rw [Nat.add_mul]
    exact ⟨by omega, fun h => by omega⟩
  · obtain ⟨r, hr⟩ : ∃ r, roundDiv n (den * 2 ^ cutBits n den) = r + 1 := by
      refine ⟨roundDiv n (den * 2 ^ cutBits n den) - 1, ?_⟩
      rw [looseRank] at hj
      omega
    have hj' : j = cutBits n den * 2 ^ 52 + r := by
      rw [looseRank] at hj
      omega
    have hunits' : units j = r * 2 ^ cutBits n den := by
      rw [hj']
      exact units_of_mantissa (by omega) (by omega)
    obtain ⟨hlow, heven⟩ := roundDiv_le n hd
    rw [hunits, hunits', hr]
    rw [hr] at hlow heven
    have hmid : (r * 2 ^ cutBits n den + (r + 1) * 2 ^ cutBits n den) * den + den * 2 ^ cutBits n den =
        2 * (r + 1) * (den * 2 ^ cutBits n den) := by ring
    exact ⟨by omega, fun h => heven (by omega)⟩

end Quotient

/-! ## The nearest rank of a quotient -/

section Scaled

variable {num den : Nat} (hden : 0 < den) (a k : Nat)
include hden

theorem scaled_le_iff :
    (a : ℚ) * (2 ^ k)⁻¹ ≤ 2 * (num / den) ↔ a * den ≤ 2 * num <<< k := by
  have hden' : (0 : ℚ) < den := Nat.cast_pos.mpr hden
  rw [← div_eq_mul_inv, ← mul_div_assoc, div_le_div_iff₀ (by positivity) hden', mul_assoc,
    Nat.shiftLeft_eq]
  exact_mod_cast Iff.rfl

theorem le_scaled_iff :
    2 * (num / den : ℚ) ≤ a * (2 ^ k)⁻¹ ↔ 2 * num <<< k ≤ a * den := by
  have hden' : (0 : ℚ) < den := Nat.cast_pos.mpr hden
  rw [← div_eq_mul_inv, ← mul_div_assoc, div_le_div_iff₀ hden' (by positivity), mul_assoc,
    Nat.shiftLeft_eq]
  exact_mod_cast Iff.rfl

end Scaled

section Midpoints

variable {num den : Nat} (hden : 0 < den) (i j : Nat)
include hden

theorem midpoint_le_iff :
    value i + value j ≤ 2 * (num / den) ↔ (units i + units j) * den ≤ 2 * num <<< 1074 := by
  rw [value, value, ← add_mul, ← Nat.cast_add, unit]
  exact scaled_le_iff hden _ 1074

theorem le_midpoint_iff :
    2 * (num / den : ℚ) ≤ value i + value j ↔ 2 * num <<< 1074 ≤ (units i + units j) * den := by
  rw [value, value, ← add_mul, ← Nat.cast_add, unit]
  exact le_scaled_iff hden _ 1074

end Midpoints

/-- Rounding a quotient finds the double nearest to it. -/
theorem nearest_nearestRank (num : Nat) {den : Nat} (hden : 0 < den) :
    Nearest (num / den) (nearestRank num den) := by
  rw [nearestRank_eq]
  obtain ⟨habove, hevenAbove⟩ := le_units_looseRank (num <<< 1074) hden
  have hbelow := fun j => units_looseRank_le (num <<< 1074) hden (j := j)
  generalize looseRank (num <<< 1074) den = i at *
  rcases le_or_gt i infinityRank with hle | hlt
  · rw [min_eq_right hle]
    refine nearest_of_midpoints hle (fun j hj => ?_) fun _ => ?_
    · obtain ⟨h, heven⟩ := hbelow j hj
      refine ⟨(midpoint_le_iff hden _ _).mpr h, fun heq => heven (le_antisymm h ?_)⟩
      exact (le_midpoint_iff hden _ _).mp heq.ge
    · refine ⟨(le_midpoint_iff hden _ _).mpr habove, fun heq => hevenAbove (le_antisymm habove ?_)⟩
      exact (midpoint_le_iff hden _ _).mp heq.ge
  · -- beyond infinity the quotient is above every midpoint
    rw [min_eq_left hlt.le]
    obtain ⟨k, rfl⟩ : ∃ k, k + 1 = i := ⟨i - 1, by omega⟩
    have hmid := (midpoint_le_iff hden _ _).mpr (hbelow k rfl).1
    have hk : value infinityRank ≤ value k := strictMono_value.monotone (by omega)
    have hk' : value k < value (k + 1) := strictMono_value (Nat.lt_succ_self k)
    exact nearest_infinity (by linarith)

end Binary64

namespace Decimal

open Binary64

/-! ## The rank of a decimal -/

/-- The number that a decimal stands for. -/
def value (d : Decimal) : ℚ := d.digits * 10 ^ d.exponent

variable {d d' : Decimal} {i n k : Nat}

theorem value_natCast (n k : Nat) : value ⟨n, k⟩ = ((n * Nat.pow 10 k : Nat) : ℚ) / (1 : Nat) := by
  have hpow : (10 : ℚ) ^ (k : Int) = 10 ^ k := zpow_natCast 10 k
  rw [value, hpow, Nat.cast_one, div_one, Nat.cast_mul]
  exact congrArg _ (Nat.cast_pow 10 k).symm

theorem value_neg (n k : Nat) : value ⟨n, -k⟩ = (n : ℚ) / (Nat.pow 10 k : Nat) := by
  have hpow : (10 : ℚ) ^ (-(k : Int)) = (10 ^ k)⁻¹ := by rw [zpow_neg, zpow_natCast]
  rw [value, hpow, ← div_eq_mul_inv]
  exact congrArg _ (Nat.cast_pow 10 k).symm

theorem le_value_of_pos (hn : 0 < n) (e : Int) : (10 : ℚ) ^ e ≤ value ⟨n, e⟩ :=
  le_mul_of_one_le_left (zpow_nonneg (by norm_num) _) (Nat.one_le_cast.mpr hn)

/-- A decimal with an exponent that is not looked at is beyond every double. -/
theorem value_infinityRank_le (hn : 0 < n) {e : Int} (he : overflowExponent ≤ e) :
    Binary64.value infinityRank ≤ value ⟨n, e⟩ := by
  have he' : (400 : Int) ≤ e := he
  rw [value_infinityRank]
  calc (2 : ℚ) ^ 1024 ≤ 2 ^ (3 * 400) := pow_le_pow_right₀ (by norm_num) (by norm_num)
    _ = (2 ^ 3) ^ 400 := pow_mul 2 3 400
    _ ≤ 10 ^ 400 := pow_le_pow_left₀ (by norm_num) (by norm_num) 400
    _ = 10 ^ ((400 : Nat) : Int) := (zpow_natCast 10 400).symm
    _ ≤ 10 ^ e := zpow_le_zpow_right₀ (by norm_num) he'
    _ ≤ value ⟨n, e⟩ := le_value_of_pos hn e

theorem two_mul_shiftLeft_le {t : Nat} (hk : n.log2 + 2 + t ≤ 3 * k) :
    2 * n <<< t ≤ 1 * Nat.pow 10 k := by
  have hn : n < 2 ^ (n.log2 + 1) := Nat.lt_log2_self
  rw [Nat.shiftLeft_eq, Nat.one_mul]
  calc 2 * (n * 2 ^ t) ≤ 2 * (2 ^ (n.log2 + 1) * 2 ^ t) :=
        Nat.mul_le_mul_left 2 (Nat.mul_le_mul_right _ hn.le)
    _ = 2 ^ (n.log2 + 2 + t) := by ring
    _ ≤ 2 ^ (3 * k) := Nat.pow_le_pow_right (by decide) hk
    _ = 8 ^ k := pow_mul 2 3 k
    _ ≤ 10 ^ k := Nat.pow_le_pow_left (by decide) k

/-- A decimal that is not looked at because it is too small is below half of the least double. -/
theorem value_le_unit (hk : n.log2 + 1101 ≤ 3 * k) : 2 * value ⟨n, -k⟩ ≤ unit := by
  have hunit : unit = (1 : Nat) * (2 ^ 1074)⁻¹ := by rw [unit, Nat.cast_one, one_mul]
  have hden : 0 < Nat.pow 10 k := Nat.pow_pos (by decide)
  rw [value_neg, hunit, le_scaled_iff hden]
  exact two_mul_shiftLeft_le (by omega)

/-- The rank of a decimal is that of the double nearest to it. -/
theorem nearest_rank (d : Decimal) : Nearest d.value d.rank := by
  obtain ⟨n, e⟩ := d
  rcases Nat.eq_zero_or_pos n with rfl | hn
  · have hzero : value ⟨0, e⟩ = 0 := by rw [value, Nat.cast_zero, zero_mul]
    rw [rank_of_digits_eq_zero rfl, hzero]
    exact nearest_zero (by linarith [unit_pos])
  rcases le_or_gt overflowExponent e with hover | hover
  · rw [rank, if_neg hn.ne', if_pos hover]
    exact nearest_infinity (value_infinityRank_le hn hover)
  rw [overflowExponent] at hover
  rcases le_or_gt 0 e with hnonneg | hneg
  · obtain ⟨k, rfl⟩ := Int.eq_ofNat_of_zero_le hnonneg
    rw [rank_of_nonneg hn.ne' (by omega), value_natCast]
    exact nearest_nearestRank _ Nat.one_pos
  · obtain ⟨k, rfl⟩ : ∃ k : Nat, e = -k := ⟨e.natAbs, by omega⟩
    rcases le_or_gt (n.log2 + 1101) (3 * k) with hcut | hlog
    · have hrank : rank ⟨n, -k⟩ = 0 := by
        have hover' : ¬ overflowExponent ≤ -(k : Int) := by
          rw [overflowExponent]
          omega
        simp only [rank, if_neg hn.ne', if_neg hover', if_neg (not_le.mpr hneg), Int.neg_neg,
          Int.toNat_natCast, if_pos hcut]
      rw [hrank]
      exact nearest_zero (value_le_unit hcut)
    · rw [rank_of_neg hn.ne' (by omega) hlog, value_neg]
      exact nearest_nearestRank _ (Nat.pow_pos (by decide))

theorem rank_le_infinityRank (d : Decimal) : d.rank ≤ infinityRank := (nearest_rank d).le_infinity

theorem rank_mono (h : d.value ≤ d'.value) : d.rank ≤ d'.rank :=
  (nearest_rank d).mono (nearest_rank d') h

theorem rank_congr (h : d.value = d'.value) : d.rank = d'.rank :=
  le_antisymm (rank_mono h.le) (rank_mono h.ge)

/-- A decimal between a double and a decimal that is read as this double is read as it too. -/
theorem rank_eq_of_between (hd : d.rank = i) (hi : i ≤ infinityRank)
    (h : d.value ≤ d'.value ∧ d'.value ≤ Binary64.value i ∨
      Binary64.value i ≤ d'.value ∧ d'.value ≤ d.value) : d'.rank = i := by
  have hvalue := nearest_value hi
  rcases h with ⟨hle, hle'⟩ | ⟨hle, hle'⟩
  · exact le_antisymm ((nearest_rank d').mono hvalue hle') (hd ▸ rank_mono hle)
  · exact le_antisymm (hd ▸ rank_mono hle') (hvalue.mono (nearest_rank d') hle)

end Decimal

end ExprGateway
