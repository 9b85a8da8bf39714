import ExprGateway.Proofs.Number.Rounding
import Mathlib.Algebra.Order.Floor.Semifield

/-!
# The fewest digits

The walk down the grids stops at the first grid with a decimal on it that reads back (`FirstHit`).  The
numbers that read as one double are an interval around it, so a grid has such a decimal only if one of
the two neighbours of the double is one (`isSome_onGrid?_of_rank`), and nothing is missed on the way.
It stops in time: with eighteen digits the lower neighbour is nearer to the double than a quarter of its
spacing (`rank_below`).

Hence the decimal that is found has no zero at its end (`FirstHit.not_dvd`), and no decimal that reads
back has fewer digits (`FirstHit.digits_lt`).  The second needs care at powers of ten: a decimal below a
power of ten that the double reaches may be a digit shorter, but then the power of ten itself reads
back.
-/

namespace ExprGateway.Decimal

open Binary64

variable {i n m : Nat} {p e : Int} {tie : Tie}

/-! ## Neighbours on a grid -/

theorem value_mono (h : n ≤ m) (e : Int) : value ⟨n, e⟩ ≤ value ⟨m, e⟩ :=
  mul_le_mul_of_nonneg_right (Nat.cast_le.mpr h) (zpow_nonneg (by norm_num) _)

theorem ten_zpow_pos (e : Int) : (0 : ℚ) < 10 ^ e := zpow_pos (by norm_num) e

theorem value_one (e : Int) : value ⟨1, e⟩ = 10 ^ e := by
  rw [value, Nat.cast_one, one_mul]

/-- A tenth of the digits on the next grid. -/
theorem value_mul_ten (n : Nat) (e : Int) : value ⟨10 * n, e⟩ = value ⟨n, e + 1⟩ := by
  rw [value, value, zpow_add_one₀ (by norm_num), Nat.cast_mul, Nat.cast_ofNat]
  ring

/-- The lower neighbour of a double on a grid. -/
def below (i : Nat) (p : Int) : Nat := (gridQuotient i p).1 / (gridQuotient i p).2

/-- The quotient of the grid, with a name for the exponent that nothing computes with. -/
theorem gridQuotient_scaled {t : Nat} (ht : t = 1074) (i : Nat) (p : Int) :
    ((gridQuotient i p).1 : ℚ) / (gridQuotient i p).2 * 10 ^ p = units i * (2 ^ t)⁻¹ := by
  have hpow : ∀ k : Nat, ((Nat.pow 10 k : Nat) : ℚ) = 10 ^ k := fun k => Nat.cast_pow 10 k
  rw [gridQuotient, ← ht]
  split_ifs with hp
  · obtain ⟨k, rfl⟩ := Int.eq_ofNat_of_zero_le hp
    rw [Int.toNat_natCast, Nat.shiftLeft_eq, Nat.cast_mul, hpow, Nat.cast_pow, Nat.cast_ofNat,
      zpow_natCast]
    field_simp
  · obtain ⟨k, rfl⟩ : ∃ k : Nat, p = -k := ⟨p.natAbs, by omega⟩
    rw [Int.neg_neg, Int.toNat_natCast, Nat.shiftLeft_eq, Nat.one_mul, Nat.cast_mul, hpow,
      Nat.cast_pow, Nat.cast_ofNat, zpow_neg, zpow_natCast]
    field_simp

theorem gridQuotient_eq (i : Nat) (p : Int) :
    ((gridQuotient i p).1 : ℚ) / (gridQuotient i p).2 * 10 ^ p = Binary64.value i :=
  gridQuotient_scaled rfl i p

theorem value_below_le (i : Nat) (p : Int) : value ⟨below i p, p⟩ ≤ Binary64.value i := by
  rw [← gridQuotient_eq i p]
  exact mul_le_mul_of_nonneg_right Nat.cast_div_le (ten_zpow_pos p).le

theorem lt_value_above (i : Nat) (p : Int) : Binary64.value i < value ⟨below i p + 1, p⟩ := by
  rw [← gridQuotient_eq i p]
  refine mul_lt_mul_of_pos_right ?_ (ten_zpow_pos p)
  rw [below, ← Nat.floor_div_eq_div (K := ℚ), Nat.cast_add_one]
  exact Nat.lt_floor_add_one _

theorem below_lt (h : Binary64.value i < 10 ^ (p + m)) : below i p < 10 ^ m := by
  have hle := (value_below_le i p).trans_lt h
  rw [value, zpow_add₀ (by norm_num), mul_comm (10 ^ p), zpow_natCast] at hle
  exact_mod_cast lt_of_mul_lt_mul_right hle (ten_zpow_pos p).le

/-! ## Hits -/

theorem isSome_onGrid? (h : rank ⟨below i p, p⟩ = i ∨ rank ⟨below i p + 1, p⟩ = i) :
    (onGrid? tie i p).isSome = true := by
  simp only [onGrid?]
  rw [below] at h
  split
  next =>
    split_ifs
    · rfl
    · rfl
    · cases tie <;> rfl
  next => rfl
  next => rfl
  next hlow hhigh =>
    rw [beq_eq_false_iff_ne] at hlow hhigh
    exact absurd h (not_or.mpr ⟨hlow, hhigh⟩)

/-- A grid has a decimal on it that reads back only if a neighbour does. -/
theorem isSome_onGrid?_of_rank (hi : i ≤ infinityRank) (h : rank ⟨n, p⟩ = i) :
    (onGrid? tie i p).isSome = true := by
  refine isSome_onGrid? ?_
  rcases Nat.lt_or_ge (below i p) n with hlt | hge
  · exact .inr (rank_eq_of_between h hi (.inr ⟨(lt_value_above i p).le, value_mono hlt p⟩))
  · exact .inl (rank_eq_of_between h hi (.inl ⟨value_mono hge p, value_below_le i p⟩))

/-- A decimal that the walk down the grids ends with. -/
structure FirstHit (tie : Tie) (i : Nat) (d : Decimal) : Prop where
  hit : onGrid? tie i d.exponent = some d.digits
  le_coarse : d.exponent ≤ coarseGrid i
  first : ∀ p, d.exponent < p → p ≤ coarseGrid i → onGrid? tie i p = none

/-- The walk ends with the first hit, if there is one within its steps. -/
theorem search_eq (tie : Tie) (steps : Nat) : ∀ {P : Int}, P - steps < p → p ≤ P →
    (onGrid? tie i p).isSome = true →
    ∃ d q, search tie i steps P = ⟨d, q⟩ ∧ onGrid? tie i q = some d ∧ q ≤ P ∧
      ∀ r, q < r → r ≤ P → onGrid? tie i r = none := by
  induction steps with
  | zero =>
      intro P hlow hhigh
      omega
  | succ steps ih =>
      intro P hlow hhigh hsome
      rw [search]
      cases hP : onGrid? tie i P with
      | some d => exact ⟨d, P, rfl, hP, le_rfl, fun r hr hr' => by omega⟩
      | none =>
          have hne : p ≠ P := by
            rintro rfl
            rw [hP] at hsome
            cases hsome
          obtain ⟨d, q, hsearch, hq, hle, hfirst⟩ := ih (P := P - 1) (by omega) (by omega) hsome
          refine ⟨d, q, hsearch, hq, by omega, fun r hr hr' => ?_⟩
          rcases eq_or_ne r P with rfl | hrP
          · exact hP
          · exact hfirst r hr (by omega)

/-! ## Eighteen digits are enough -/

/-- The spacing below a double is at least its `2 ^ 53`rd part. -/
theorem value_le_gap {j : Nat} (hj : j + 1 = i) :
    Binary64.value i ≤ 2 ^ 53 * (Binary64.value i - Binary64.value j) := by
  subst hj
  obtain ⟨s, m, -, hm, hu, hu'⟩ := exists_units_succ j
  have hle : (m : ℚ) + 1 ≤ 2 ^ 53 := by exact_mod_cast hm
  have hpos : 0 < 2 ^ s * unit := mul_pos (by positivity) unit_pos
  rw [Binary64.value, Binary64.value, hu, hu']
  push_cast
  nlinarith

/-- On a grid this fine the lower neighbour reads back. -/
theorem rank_below (hi : i ≤ infinityRank) (hp : 10 ^ (p + 17) ≤ Binary64.value i) :
    rank ⟨below i p, p⟩ = i := by
  have hle := value_below_le i p
  have hlt := lt_value_above i p
  have hnext : value ⟨below i p + 1, p⟩ = value ⟨below i p, p⟩ + 10 ^ p := by
    rw [value, value, Nat.cast_add_one, add_mul, one_mul]
  rw [zpow_add₀ (by norm_num)] at hp
  refine (nearest_rank _).unique (nearest_of_midpoints hi (fun j hj => ?_) fun _ => ?_)
  · have hgap := value_le_gap hj
    exact ⟨by linarith, fun h => by linarith⟩
  · have : Binary64.value i < Binary64.value (i + 1) := strictMono_value (Nat.lt_succ_self i)
    exact ⟨by linarith, fun h => by linarith⟩

/-- `30103 / 100000` is near enough to the decimal logarithm of two: `28 / 93` is above it, `3 / 10`
below. -/
theorem pow_two_bounds {l : Nat} (hl : l ≤ 2098) :
    2 ^ l ≤ 10 ^ (l * 30103 / 100000 + 2) ∧ 10 ^ (l * 30103 / 100000) ≤ 1000 * 2 ^ l := by
  constructor
  · refine (Nat.pow_le_pow_iff_left (by decide : 93 ≠ 0)).mp ?_
    calc (2 ^ l) ^ 93 = (2 ^ 93) ^ l := by rw [← pow_mul, ← pow_mul, mul_comm]
      _ ≤ (10 ^ 28) ^ l := Nat.pow_le_pow_left (by norm_num) l
      _ = 10 ^ (28 * l) := (pow_mul 10 28 l).symm
      _ ≤ 10 ^ ((l * 30103 / 100000 + 2) * 93) := Nat.pow_le_pow_right (by decide) (by omega)
      _ = (10 ^ (l * 30103 / 100000 + 2)) ^ 93 := pow_mul 10 _ 93
  · refine (Nat.pow_le_pow_iff_left (by decide : 10 ≠ 0)).mp ?_
    calc (10 ^ (l * 30103 / 100000)) ^ 10 = 10 ^ (l * 30103 / 100000 * 10) := (pow_mul 10 _ 10).symm
      _ ≤ 10 ^ (30 + 3 * l) := Nat.pow_le_pow_right (by decide) (by omega)
      _ = 1000 ^ 10 * (10 ^ 3) ^ l := by rw [pow_add, pow_mul]; norm_num
      _ ≤ 1000 ^ 10 * (2 ^ 10) ^ l :=
        Nat.mul_le_mul_left _ (Nat.pow_le_pow_left (by norm_num) l)
      _ = (1000 * 2 ^ l) ^ 10 := by rw [mul_pow, ← pow_mul, ← pow_mul, mul_comm 10 l]

theorem unit_bounds : (10 : ℚ) ^ (-324 : Int) ≤ unit ∧ 2 * unit ≤ 10 ^ (-323 : Int) := by
  have hcast : ∀ {a b k l : Nat}, a ^ k ≤ b ^ l → (a : ℚ) ^ k ≤ (b : ℚ) ^ l := by
    intro a b k l h
    rw [← Nat.cast_pow, ← Nat.cast_pow]
    exact Nat.cast_le.mpr h
  have hlow : (2 : ℚ) ^ 1074 ≤ 10 ^ 324 := hcast (a := 2) (b := 10) (by decide +kernel)
  have hhigh : (10 : ℚ) ^ 323 ≤ 2 ^ 1073 := hcast (a := 10) (b := 2) (by decide +kernel)
  have hhalf : 2 * unit = (2 ^ 1073)⁻¹ := by
    rw [unit, show 1074 = 1073 + 1 from rfl, pow_succ, mul_inv, mul_comm 2,
      inv_mul_cancel_right₀ two_ne_zero]
  rw [hhalf, unit, zpow_neg, zpow_neg]
  exact ⟨inv_anti₀ (by positivity) hlow, inv_anti₀ (by positivity) hhigh⟩

section Range

variable (hpos : 0 < i) (hlt : i < infinityRank)
include hpos

theorem units_log2_bounds :
    (2 : ℚ) ^ (units i).log2 ≤ units i ∧ (units i : ℚ) < 2 * 2 ^ (units i).log2 := by
  have hne : units i ≠ 0 := (units_pos hpos).ne'
  have hlow : 2 ^ (units i).log2 ≤ units i := Nat.log2_self_le hne
  have hhigh : units i < 2 * 2 ^ (units i).log2 := by
    rw [← pow_succ']
    exact Nat.lt_log2_self
  exact ⟨by exact_mod_cast hlow, by exact_mod_cast hhigh⟩

include hlt

theorem log2_units_le : (units i).log2 ≤ 2098 := by
  obtain ⟨k, hk, hu⟩ := exists_units_lt hlt
  have := (Nat.log2_lt (units_pos hpos).ne').mpr hu
  omega

/-- The walk begins above the double, by less than seven powers of ten. -/
theorem coarseGrid_spec :
    Binary64.value i < 10 ^ coarseGrid i ∧ 10 ^ (coarseGrid i - 6) ≤ Binary64.value i := by
  obtain ⟨hlow, hhigh⟩ := units_log2_bounds hpos
  obtain ⟨hup, hdown⟩ := pow_two_bounds (log2_units_le hpos hlt)
  obtain ⟨hunit, hunit'⟩ := unit_bounds
  have hup' : (2 : ℚ) ^ (units i).log2 ≤ 10 ^ ((units i).log2 * 30103 / 100000 + 2) := by
    exact_mod_cast hup
  have hdown' : (10 : ℚ) ^ ((units i).log2 * 30103 / 100000) ≤ 1000 * 2 ^ (units i).log2 := by
    exact_mod_cast hdown
  have hpos' := unit_pos
  rw [coarseGrid, Binary64.value]
  generalize unit = u at *
  generalize (units i).log2 * 30103 / 100000 = f at *
  generalize (units i).log2 = l at *
  have hsplit : ∀ t : Int, (10 : ℚ) ^ ((f : Int) - t) = 10 ^ f * 10 ^ (-t) := fun t => by
    rw [sub_eq_add_neg, zpow_add₀ (by norm_num), zpow_natCast]
  constructor
  · calc (units i : ℚ) * u < 2 * 2 ^ l * u := mul_lt_mul_of_pos_right hhigh hpos'
      _ = 2 ^ l * (2 * u) := by ring
      _ ≤ 10 ^ (f + 2) * 10 ^ (-323 : Int) := by gcongr
      _ = 10 ^ ((f : Int) - 321) := by
        rw [hsplit, show (-321 : Int) = -323 + 2 from rfl, zpow_add₀ (by norm_num)]
        ring
  · calc (10 : ℚ) ^ ((f : Int) - 321 - 6) = 10 ^ f * 10 ^ (-327 : Int) := by
          rw [show (f : Int) - 321 - 6 = f - 327 by ring, hsplit]
      _ ≤ 1000 * 2 ^ l * 10 ^ (-327 : Int) := by gcongr
      _ = 2 ^ l * 10 ^ (-324 : Int) := by
        rw [show (-324 : Int) = -327 + 3 from rfl, zpow_add₀ (by norm_num)]
        ring
      _ ≤ units i * u := mul_le_mul hlow hunit (ten_zpow_pos _).le (Nat.cast_nonneg _)

/-- The power of ten of a double's first digit, and where the walk begins. -/
theorem exists_magnitude :
    ∃ k, 10 ^ k ≤ Binary64.value i ∧ Binary64.value i < 10 ^ (k + 1) ∧ k < coarseGrid i ∧
      coarseGrid i ≤ k + 6 := by
  obtain ⟨hbelow, habove⟩ := coarseGrid_spec hpos hlt
  obtain ⟨k, hk, hk'⟩ := exists_mem_Ico_zpow (y := (10 : ℚ)) ((ten_zpow_pos _).trans_le habove)
    (by norm_num)
  have hone : (1 : ℚ) < 10 := by norm_num
  have hlow : k < coarseGrid i := (zpow_lt_zpow_iff_right₀ hone).mp (hk.trans_lt hbelow)
  have hhigh : coarseGrid i - 6 < k + 1 := (zpow_lt_zpow_iff_right₀ hone).mp (habove.trans_lt hk')
  exact ⟨k, hk, hk', hlow, by omega⟩

theorem firstHit_shortest : FirstHit tie i (shortest tie i) := by
  obtain ⟨k, hk, -, hlow, hhigh⟩ := exists_magnitude hpos hlt
  have hrank : rank ⟨below i (k - 17), k - 17⟩ = i := rank_below hlt.le (by rwa [sub_add_cancel])
  obtain ⟨d, q, hsearch, hhit, hle, hfirst⟩ :=
    search_eq tie 24 (P := coarseGrid i) (by omega) (by omega)
      (isSome_onGrid? (.inl hrank))
  rw [shortest, if_neg hpos.ne', hsearch]
  exact ⟨hhit, hle, hfirst⟩

end Range

/-! ## What is found -/

namespace FirstHit

variable {d c : Decimal} (h : FirstHit tie i d)
include h

theorem rank_eq : d.rank = i := (of_onGrid? h.hit).1

theorem digits_le : d.digits ≤ below i d.exponent + 1 := (of_onGrid? h.hit).2

/-- No grid above that of the first hit has a decimal on it that reads back. -/
theorem le_exponent (hi : i ≤ infinityRank) (hn : rank ⟨n, e⟩ = i) (he : e ≤ coarseGrid i) :
    e ≤ d.exponent := by
  by_contra hlt
  have hnone := h.first e (by omega) he
  have hsome : (onGrid? tie i e).isSome = true := isSome_onGrid?_of_rank hi hn
  rw [hnone] at hsome
  cases hsome

variable (hpos : 0 < i)
include hpos

theorem digits_ne_zero : d.digits ≠ 0 := fun hzero => by
  have := h.rank_eq
  rw [rank_of_digits_eq_zero hzero] at this
  omega

variable (hlt : i < infinityRank)
include hlt

/-- On the first grid the only digit is one. -/
theorem digits_of_coarse (hcoarse : d.exponent = coarseGrid i) : d.digits = 1 := by
  have hbelow : Binary64.value i < 10 ^ (d.exponent + (0 : Nat)) := by
    rw [hcoarse, Nat.cast_zero, add_zero]
    exact (coarseGrid_spec hpos hlt).1
  have hzero := below_lt hbelow
  have hle := h.digits_le
  have hne := h.digits_ne_zero hpos
  omega

/-- The digits end in no zero. -/
theorem not_dvd : ¬ 10 ∣ d.digits := by
  rintro ⟨n, hn⟩
  rcases lt_or_eq_of_le h.le_coarse with hbelow | hcoarse
  · have hrank : rank ⟨n, d.exponent + 1⟩ = i := by
      rw [← h.rank_eq]
      refine rank_congr ?_
      rw [← value_mul_ten, ← hn]
    have := h.le_exponent hlt.le hrank (by omega)
    omega
  · have := h.digits_of_coarse hpos hlt hcoarse
    omega

/-- If the double is below a power of ten, the digits are as few as this leaves on the grid. -/
theorem digits_lt_of_value_lt (hm : Binary64.value i < 10 ^ (d.exponent + (m + 1 : Nat))) :
    d.digits < 10 ^ (m + 1) := by
  have hle := h.digits_le
  have hbelow := below_lt hm
  rcases Nat.lt_or_eq_of_le (hle.trans hbelow) with hlt' | heq
  · exact hlt'
  · -- the power of ten itself would end in a zero
    exact absurd ⟨10 ^ m, heq.trans (pow_succ' 10 m)⟩ (h.not_dvd hpos hlt)

/-- No decimal that reads back has fewer digits. -/
theorem digits_lt (hc : c.rank = i) (hm : c.digits < 10 ^ m) : d.digits < 10 ^ m := by
  obtain ⟨k, hk, hk', hkP, -⟩ := exists_magnitude hpos hlt
  have hc0 : 0 < c.digits := by
    rw [Nat.pos_iff_ne_zero]
    intro hzero
    rw [rank_of_digits_eq_zero hzero] at hc
    omega
  obtain ⟨m, rfl⟩ : ∃ l, m = l + 1 := by
    refine ⟨m - 1, ?_⟩
    rcases Nat.eq_zero_or_pos m with rfl | hpos'
    · rw [pow_zero] at hm
      omega
    · omega
  refine h.digits_lt_of_value_lt hpos hlt (hk'.trans_le (zpow_le_zpow_right₀ (by norm_num) ?_))
  -- it is enough that the first hit is not too fine for so many digits
  suffices k ≤ d.exponent + m by
    push_cast
    omega
  rcases lt_or_ge c.value (10 ^ k) with hlow | hhigh
  · -- the power of ten is between the decimal and the double
    have hrank : rank ⟨1, k⟩ = i :=
      rank_eq_of_between hc hlt.le (.inl ⟨by rw [value_one]; exact hlow.le, by rwa [value_one]⟩)
    have := h.le_exponent hlt.le hrank hkP.le
    omega
  · have hck : k < c.exponent + (m + 1 : Nat) := by
      refine (zpow_lt_zpow_iff_right₀ (by norm_num : (1 : ℚ) < 10)).mp (hhigh.trans_lt ?_)
      rw [value, zpow_add₀ (by norm_num), mul_comm, zpow_natCast]
      exact mul_lt_mul_of_pos_left (by exact_mod_cast hm) (ten_zpow_pos _)
    push_cast at hck
    rcases le_or_gt c.exponent (coarseGrid i) with hle | hgt
    · have := h.le_exponent hlt.le hc hle
      omega
    · -- beyond the first grid the decimal is above its power of ten, and that is above the double
      have hP := (coarseGrid_spec hpos hlt).1
      have hrank : rank ⟨1, coarseGrid i⟩ = i := by
        refine rank_eq_of_between hc hlt.le (.inr ⟨?_, ?_⟩)
        · rw [value_one]
          exact hP.le
        · rw [value_one]
          exact (zpow_le_zpow_right₀ (by norm_num) hgt.le).trans (le_value_of_pos hc0 _)
      have := h.le_exponent hlt.le hrank le_rfl
      omega

end FirstHit

end ExprGateway.Decimal
