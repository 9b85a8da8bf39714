import ExprGateway.Number.Style
import ExprGateway.Proofs.Number.Binary64
import Mathlib.Tactic.Positivity
import Mathlib.Tactic.Ring

/-!
# The shortest decimal reads back

`Decimal.shortest` walks down the grids of powers of ten.  On each grid it takes a decimal only if
that reads back, so all that remains is the end of the walk, where the exact decimal of the double
is taken: that it reads back is `rank_exact`, which rests on `nearestRank_of_units`, rounding of a
quotient that is the value of a rank gives this rank.

What is found is of moderate size (`Moderate`).  Neither the digits nor the exponent come near the
numbers that are cut short when a literal is read.
-/

namespace ExprGateway

/-! ## Rounding what needs no rounding -/

namespace Binary64

/-- A rank is a mantissa with a scale: the leading bit of the mantissa is there, unless the scale is
the least. -/
theorem exists_units (i : Nat) :
    ∃ s m, i = s * 2 ^ 52 + m ∧ m < 2 ^ 53 ∧ (s = 0 ∨ 2 ^ 52 ≤ m) ∧ units i = m * 2 ^ s := by
  have hs : scale i = i / 2 ^ 52 - 1 := by rw [scale, Nat.shiftRight_eq_div_pow]
  refine ⟨scale i, i - scale i * 2 ^ 52, by omega, by omega, by omega, ?_⟩
  rw [units, Nat.shiftLeft_eq, Nat.shiftLeft_eq]

theorem units_pos {i : Nat} (hi : 0 < i) : 0 < units i := by
  obtain ⟨s, m, rfl, -, hlead, hu⟩ := exists_units i
  rw [hu]
  refine Nat.mul_pos ?_ (by positivity)
  rcases hlead with rfl | hle <;> omega

theorem exists_units_lt {i : Nat} (hi : i < infinityRank) : ∃ k ≤ 2098, units i < 2 ^ k := by
  obtain ⟨s, m, rfl, hm, hlead, hu⟩ := exists_units i
  rw [infinityRank_eq] at hi
  refine ⟨53 + s, by omega, ?_⟩
  rw [hu, pow_add]
  exact Nat.mul_lt_mul_of_pos_right hm (by positivity)

theorem roundDiv_mul_right (n : Nat) {d : Nat} (hd : 0 < d) : roundDiv (n * d) d = n := by
  rw [roundDiv, Nat.mul_mod_left, Nat.mul_div_cancel n hd]
  simp [hd]

/-- How many bits of a value are cut is the scale of its rank. -/
theorem log2_units {s m : Nat} (hm : m < 2 ^ 53) (hlead : s = 0 ∨ 2 ^ 52 ≤ m) :
    (m * 2 ^ s).log2 - 52 = s := by
  rcases hlead with rfl | hle
  · rw [pow_zero, mul_one]
    rcases Nat.eq_zero_or_pos m with rfl | hpos
    · rfl
    · have := (Nat.log2_lt (by omega)).mpr hm
      omega
  · have hlog : (m * 2 ^ s).log2 = 52 + s := by
      rw [Nat.log2_eq_iff (Nat.mul_ne_zero (by omega) (by positivity))]
      constructor
      · rw [pow_add]
        exact Nat.mul_le_mul_right _ hle
      · rw [show 52 + s + 1 = 53 + s by ring, pow_add]
        exact Nat.mul_lt_mul_of_pos_right hm (by positivity)
    omega

/-- A quotient that is the value of a rank is rounded to this rank. -/
theorem nearestRank_of_units {i num den : Nat} (hi : i < infinityRank) (hden : 0 < den)
    (h : num <<< 1074 = units i * den) : nearestRank num den = i := by
  obtain ⟨s, m, rfl, hm, hlead, hu⟩ := exists_units i
  have hn : m * 2 ^ s * den = m * (den * 2 ^ s) := by ring
  rw [nearestRank, h, hu, Nat.mul_div_cancel _ hden, log2_units hm hlead, Nat.shiftLeft_eq,
    Nat.shiftLeft_eq, hn, roundDiv_mul_right m (by positivity)]
  exact Nat.min_eq_right hi.le

end Binary64

namespace Decimal

open Binary64

/-! ## The rank of a decimal that is not cut short -/

theorem rank_of_digits_eq_zero {d : Decimal} (h : d.digits = 0) : d.rank = 0 := if_pos h

theorem rank_of_nonneg {n k : Nat} (hn : n ≠ 0) (hk : k < 400) :
    rank ⟨n, k⟩ = nearestRank (n * Nat.pow 10 k) 1 := by
  have hover : ¬ overflowExponent ≤ (k : Int) := by
    rw [overflowExponent]
    omega
  simp only [rank, if_neg hn, if_neg hover, Int.toNat_natCast, Int.natCast_nonneg, if_true]

theorem rank_of_neg {n k : Nat} (hn : n ≠ 0) (hk : 0 < k) (hlog : 3 * k < n.log2 + 1101) :
    rank ⟨n, -k⟩ = nearestRank n (Nat.pow 10 k) := by
  have hover : ¬ overflowExponent ≤ -(k : Int) := by
    rw [overflowExponent]
    omega
  have hneg : ¬ 0 ≤ -(k : Int) := by omega
  simp only [rank, if_neg hn, if_neg hover, if_neg hneg, Int.neg_neg, Int.toNat_natCast]
  rw [if_neg (by omega)]

/-! ## The exact decimal of a rank -/

/-- The power of two in front of a quotient makes powers of ten of powers of five. -/
theorem mul_pow_five_shiftLeft (u n : Nat) : (u * Nat.pow 5 n) <<< n = u * Nat.pow 10 n := by
  rw [Nat.shiftLeft_eq, mul_assoc]
  exact congrArg _ (mul_pow 5 2 n).symm

theorem mul_pow_five_le (u n : Nat) : u * Nat.pow 5 n ≤ u * Nat.pow 10 n :=
  Nat.mul_le_mul_left _ (Nat.pow_le_pow_left (by decide) n)

theorem le_log2_mul_pow_five {u : Nat} (hu : 0 < u) (n : Nat) :
    2 * n ≤ (u * Nat.pow 5 n).log2 := by
  have hle : 2 ^ (2 * n) ≤ u * Nat.pow 5 n := by
    calc 2 ^ (2 * n) = 4 ^ n := pow_mul 2 2 n
      _ ≤ 5 ^ n := Nat.pow_le_pow_left (by decide) n
      _ ≤ u * 5 ^ n := Nat.le_mul_of_pos_left _ hu
  have hpos : 0 < 2 ^ (2 * n) := by positivity
  exact (Nat.le_log2 (by omega)).mpr hle

/-- The exact decimal, with a name for the exponent that nothing computes with. -/
theorem exact_eq {n : Nat} (hn : n = 1074) (i : Nat) : exact i = ⟨units i * Nat.pow 5 n, -n⟩ := by
  have hexp : -(n : Int) = -1074 := by omega
  simp only [exact, hexp, ← hn]

theorem rank_exact {i : Nat} (hi : i < infinityRank) : (exact i).rank = i := by
  obtain ⟨n, hn⟩ : ∃ n, n = 1074 := ⟨_, rfl⟩
  rw [exact_eq hn]
  rcases Nat.eq_zero_or_pos i with rfl | hpos
  · exact rank_of_digits_eq_zero (Nat.zero_mul (Nat.pow 5 n))
  have hlog := le_log2_mul_pow_five (units_pos hpos) n
  have hne : units i * Nat.pow 5 n ≠ 0 :=
    Nat.mul_ne_zero (units_pos hpos).ne' (Nat.pow_pos (by decide)).ne'
  rw [rank_of_neg hne (by omega) (by omega)]
  refine nearestRank_of_units hi (Nat.pow_pos (by decide)) ?_
  rw [← hn, mul_pow_five_shiftLeft]

/-! ## The search -/

/-- What is taken on a grid is one of the two neighbours, and it reads back. -/
theorem of_onGrid? {tie : Tie} {i d : Nat} {p : Int} (h : onGrid? tie i p = some d) :
    rank ⟨d, p⟩ = i ∧ d ≤ (gridQuotient i p).1 / (gridQuotient i p).2 + 1 := by
  simp only [onGrid?] at h
  generalize (gridQuotient i p).1 / (gridQuotient i p).2 = low at h ⊢
  split at h
  next hlow hhigh =>
    have hcases : d = low ∨ d = low + 1 := by
      split_ifs at h
      · exact .inl (Option.some.inj h).symm
      · exact .inr (Option.some.inj h).symm
      · cases tie with
        | up => exact .inr (Option.some.inj h).symm
        | even =>
            obtain rfl := Option.some.inj h
            omega
    rcases hcases with rfl | rfl
    · exact ⟨beq_iff_eq.mp hlow, by omega⟩
    · exact ⟨beq_iff_eq.mp hhigh, le_rfl⟩
  next hlow _ =>
    obtain rfl := Option.some.inj h
    exact ⟨beq_iff_eq.mp hlow, by omega⟩
  next _ hhigh =>
    obtain rfl := Option.some.inj h
    exact ⟨beq_iff_eq.mp hhigh, le_rfl⟩
  next => cases h

theorem rank_search {tie : Tie} {i : Nat} (hi : i < infinityRank) :
    ∀ (steps : Nat) (p : Int), (search tie i steps p).rank = i := by
  intro steps
  induction steps with
  | zero => exact fun _ => rank_exact hi
  | succ steps ih =>
      intro p
      rw [search]
      cases h : onGrid? tie i p with
      | some d => exact (of_onGrid? h).1
      | none => exact ih (p - 1)

/-- The shortest decimal of a rank reads back. -/
theorem rank_shortest {tie : Tie} {i : Nat} (hi : i < infinityRank) : (shortest tie i).rank = i := by
  rw [shortest]
  split_ifs with h
  · rw [h]
    exact rank_of_digits_eq_zero rfl
  · exact rank_search hi _ _

/-! ## The size of what is found -/

/-- A decimal with an exponent and a number of digits that are not extreme. -/
structure Moderate (d : Decimal) : Prop where
  le_exponent : -1074 ≤ d.exponent
  exponent_le : d.exponent ≤ 310
  length_le : (digitChars d.digits).length ≤ 6500

theorem length_digitChars_le {n k : Nat} (h : n < 2 ^ k) : (digitChars n).length ≤ k + 1 := by
  refine (Nat.length_toDigits_le_iff (by decide) (Nat.succ_pos k)).mpr ?_
  calc n < 2 ^ k := h
    _ ≤ 10 ^ k := Nat.pow_le_pow_left (by decide) k
    _ ≤ 10 ^ (k + 1) := Nat.pow_le_pow_right (by decide) k.le_succ

/-- The value of a rank on a grid that is not too fine is not too long. -/
theorem length_digitChars_units {i n k : Nat} (hi : i < infinityRank) (hk : k ≤ 1074)
    (hn : n ≤ units i * Nat.pow 10 k + 1) : (digitChars n).length ≤ 6500 := by
  obtain ⟨j, hj, hu⟩ := exists_units_lt hi
  have hten : Nat.pow 10 k ≤ 2 ^ (4 * k) := by
    calc 10 ^ k ≤ 16 ^ k := Nat.pow_le_pow_left (by decide) k
      _ = 2 ^ (4 * k) := (pow_mul 2 4 k).symm
  have hlt : units i * Nat.pow 10 k < 2 ^ (j + 4 * k) := by
    calc units i * Nat.pow 10 k ≤ units i * 2 ^ (4 * k) := Nat.mul_le_mul_left _ hten
      _ < 2 ^ j * 2 ^ (4 * k) := Nat.mul_lt_mul_of_pos_right hu (by positivity)
      _ = 2 ^ (j + 4 * k) := (pow_add 2 j (4 * k)).symm
  have hn' : n < 2 ^ (j + 4 * k + 1) := by
    rw [pow_succ]
    omega
  have := length_digitChars_le hn'
  omega

theorem gridQuotient_le (i : Nat) (p : Int) :
    (gridQuotient i p).1 / (gridQuotient i p).2 ≤ units i * Nat.pow 10 (-p).toNat := by
  refine (Nat.div_le_self _ _).trans ?_
  rw [gridQuotient]
  split_ifs
  · exact Nat.le_mul_of_pos_right _ (Nat.pow_pos (by decide))
  · exact le_rfl

theorem moderate_exact {i : Nat} (hi : i < infinityRank) : (exact i).Moderate := by
  obtain ⟨n, hn⟩ : ∃ n, n = 1074 := ⟨_, rfl⟩
  rw [exact_eq hn]
  have hlen := length_digitChars_units hi hn.le (Nat.le_succ_of_le (mul_pow_five_le (units i) n))
  exact ⟨by simp only; omega, by simp only; omega, hlen⟩

theorem moderate_search {tie : Tie} {i : Nat} (hi : i < infinityRank) :
    ∀ (steps : Nat) (p : Int), -1074 ≤ p - steps → p ≤ 310 → (search tie i steps p).Moderate := by
  intro steps
  induction steps with
  | zero => exact fun _ _ _ => moderate_exact hi
  | succ steps ih =>
      intro p hlow hhigh
      rw [search]
      cases h : onGrid? tie i p with
      | some d =>
          have hd := (of_onGrid? h).2
          have hgrid := gridQuotient_le i p
          have hp : -1074 ≤ p := by omega
          have hd' : d ≤ units i * Nat.pow 10 (-p).toNat + 1 := by omega
          exact ⟨hp, hhigh, length_digitChars_units hi (by omega) hd'⟩
      | none => exact ih (p - 1) (by omega) (by omega)

theorem coarseGrid_bounds {i : Nat} (hi : i < infinityRank) :
    -321 ≤ coarseGrid i ∧ coarseGrid i ≤ 310 := by
  obtain ⟨k, hk, hu⟩ := exists_units_lt hi
  have hlog : (units i).log2 ≤ 2098 := by
    rcases Nat.eq_zero_or_pos (units i) with h | h
    · rw [h]
      decide
    · have := (Nat.log2_lt (by omega)).mpr hu
      omega
  rw [coarseGrid]
  omega

theorem moderate_shortest (tie : Tie) {i : Nat} (hi : i < infinityRank) :
    (shortest tie i).Moderate := by
  rw [shortest]
  split_ifs with h
  · exact ⟨by decide, by decide, by decide⟩
  · obtain ⟨hlow, hhigh⟩ := coarseGrid_bounds hi
    exact moderate_search hi _ _ (by omega) hhigh

end Decimal

end ExprGateway
