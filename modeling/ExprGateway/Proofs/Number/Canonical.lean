import ExprGateway.Proofs.Number.Literals
import ExprGateway.Proofs.Number.Order
import Mathlib.Data.List.DropRight

/-!
# The canonical text of a number

The compact text of a number is the one text that its notation allows, and no shorter one reads back
(`formatNumber_canonical`).  The digits that are written end in no zero, and this gives both notations
their shape (`positionalNumeral_positional`, `scientificNumeral_exponential`).  Which notation is taken
is decided by the place of the first digit, and that is a test of the magnitude because the two
thresholds are written as powers of ten themselves (`le_place_iff`).

What other texts read back is a matter of their literals: without the zeros around its digits a literal
is a decimal of the same rank, so it has at least the digits of the shortest one
(`length_le_significantDigits`).
-/

namespace ExprGateway

open Binary64 Literal Decimal

/-- The power of ten of the first digit. -/
def place (d : Decimal) : Int := d.exponent + (digitChars d.digits).length - 1

theorem write_eq (s : Style) (d : Decimal) :
    d.write s = if s.isPositional (place d) then positional s (digitChars d.digits) (place d)
      else exponential s (digitChars d.digits) (place d) := rfl

/-! ## Significant digits -/

/-- Digits without the zeros in front of them and behind them. -/
def strip (ds : List Char) : List Char := (ds.dropWhile (· == '0')).rdropWhile (· == '0')

/-- The digits of a numeral in front of its exponent. -/
def mantissaDigits (cs : List Char) : List Char :=
  (cs.takeWhile fun c => c != 'e' && c != 'E').filter Char.isDigit

/-- How many digits of a numeral count. -/
def significantDigits (cs : List Char) : Nat := (strip (mantissaDigits cs)).length

section Strip

theorem exists_eq_zeros {ds : List Char} (h : ∀ c ∈ ds, (c == '0') = true) : ∃ n, ds = zeros n :=
  ⟨ds.length, List.eq_replicate_of_mem fun c hc => beq_iff_eq.mp (h c hc)⟩

theorem beq_of_mem_zeros {n : Nat} {c : Char} (h : c ∈ zeros n) : (c == '0') = true :=
  beq_iff_eq.mpr (List.eq_of_mem_replicate h)

theorem exists_strip (ds : List Char) : ∃ a b, ds = zeros a ++ strip ds ++ zeros b := by
  obtain ⟨a, hfront⟩ : ∃ a, ds.takeWhile (· == '0') = zeros a :=
    exists_eq_zeros fun c hc => List.mem_takeWhile_imp (p := (· == '0')) hc
  obtain ⟨b, hback⟩ : ∃ b, (ds.dropWhile (· == '0')).rtakeWhile (· == '0') = zeros b :=
    exists_eq_zeros fun c hc => List.mem_rtakeWhile_imp (p := (· == '0')) hc
  refine ⟨a, b, ?_⟩
  rw [← hfront, strip, List.append_assoc, ← hback, List.rdropWhile_append_rtakeWhile,
    List.takeWhile_append_dropWhile]

theorem rdropWhile_append_zeros (ds : List Char) (b : Nat) :
    (ds ++ zeros b).rdropWhile (· == '0') = ds.rdropWhile (· == '0') := by
  rw [List.rdropWhile, List.reverse_append, List.dropWhile_append_of_pos, List.rdropWhile]
  exact fun c hc => beq_of_mem_zeros (List.mem_reverse.mp hc)

theorem length_strip_append_zeros (ds : List Char) (b : Nat) :
    (strip (ds ++ zeros b)).length ≤ ds.length := by
  induction ds with
  | nil =>
      have hnil : (zeros b).dropWhile (· == '0') = [] :=
        List.dropWhile_eq_nil_iff.mpr fun c hc => beq_of_mem_zeros hc
      rw [strip, List.nil_append, hnil]
      exact le_rfl
  | cons c ds ih =>
      rw [strip, List.cons_append, List.dropWhile_cons]
      split_ifs
      · exact ih.trans (Nat.le_succ _)
      · rw [← List.cons_append, rdropWhile_append_zeros]
        exact (List.rdropWhile_prefix _ _).length_le

theorem length_strip_le (a b : Nat) (ds : List Char) :
    (strip (zeros a ++ ds ++ zeros b)).length ≤ ds.length := by
  rw [List.append_assoc, strip, List.dropWhile_append_of_pos fun c hc => beq_of_mem_zeros hc]
  exact length_strip_append_zeros ds b

end Strip

section MantissaDigits

variable {cs front back m ds : List Char} {k : Nat} {q d : Decimal}

theorem mantissaDigits_append (hfront : ∀ c ∈ front, (c != 'e' && c != 'E') = true)
    (hback : back.head?.any (fun c => c != 'e' && c != 'E') = false) :
    mantissaDigits (front ++ back) = front.filter Char.isDigit := by
  have hspan := span_append hfront hback
  rw [List.span_eq_takeWhile_dropWhile, Prod.mk.injEq] at hspan
  rw [mantissaDigits, hspan.1]

theorem mantissaDigits_of_noMark (h : ∀ c ∈ cs, (c != 'e' && c != 'E') = true) :
    mantissaDigits cs = cs.filter Char.isDigit := by
  have hdigits : mantissaDigits (cs ++ []) = cs.filter Char.isDigit := mantissaDigits_append h rfl
  rwa [List.append_nil] at hdigits

theorem filter_isDigit (h : ∀ c ∈ ds, c.isDigit = true) : ds.filter Char.isDigit = ds :=
  List.filter_eq_self.mpr h

theorem Literal.Mantissa.filter_eq (h : Mantissa m ds k) : m.filter Char.isDigit = ds := by
  cases h with
  | whole _ hd => exact filter_isDigit hd
  | point _ hd hf =>
      rw [List.filter_append, List.filter_cons_of_neg (by decide), filter_isDigit hd, filter_isDigit hf]

/-- The digits of a literal are those of the decimal that is read. -/
theorem Literal.Spells.mantissaDigits (h : Spells cs q d) :
    (∀ c ∈ mantissaDigits cs, c.isDigit = true) ∧ d.digits = digitsValue (mantissaDigits cs) := by
  cases h with
  | plain hm =>
      rw [mantissaDigits_of_noMark hm.isNoMark, hm.filter_eq]
      exact ⟨hm.isDigit, rfl⟩
  | scaled hm hmark =>
      rw [mantissaDigits_append hm.isNoMark (head?_any_of_mark hmark), hm.filter_eq]
      exact ⟨hm.isDigit, rfl⟩

theorem mantissaDigits_splitSign (cs : List Char) :
    mantissaDigits (splitSign cs).2 = mantissaDigits cs := by
  obtain ⟨sign, negative, es, hsplit, hsign, rfl⟩ := exists_sign cs
  rw [hsplit]
  cases hsign <;> rfl

end MantissaDigits

section Fewest

variable {cs : List Char} {x : Float} {tie : Tie}

/-- A literal without the zeros around its digits. -/
theorem exists_stripped {ds : List Char} (h : ∀ c ∈ ds, c.isDigit = true) (e : Int) :
    ∃ c : Decimal, c.digits < 10 ^ (strip ds).length ∧ c.value = Decimal.value ⟨digitsValue ds, e⟩ := by
  obtain ⟨a, b, hds⟩ := exists_strip ds
  have hstrip : ∀ c ∈ strip ds, c.isDigit = true := fun c hc => h c (by rw [hds]; simp [hc])
  have hvalue : digitsValue ds = digitsValue (strip ds) * 10 ^ b := by
    conv_lhs => rw [hds]
    rw [List.append_assoc, digitsValue_zeros_append, digitsValue_append_zeros]
  refine ⟨⟨digitsValue (strip ds), b + e⟩, digitsValue_lt hstrip, ?_⟩
  rw [hvalue, Decimal.value, Decimal.value, zpow_add₀ (by norm_num), zpow_natCast, Nat.cast_mul,
    Nat.cast_pow, Nat.cast_ofNat, mul_assoc]

/-- No text that reads as a number has fewer digits that count than its shortest decimal has digits. -/
theorem length_le_significantDigits (h : readFinite? cs = some x) (hpos : 0 < rank x) :
    (digitChars (shortest tie (rank x)).digits).length ≤ significantDigits cs := by
  obtain ⟨q, d, hspells, hlt, rfl⟩ := readFinite?_eq_some_iff.mp h
  rw [rank_ofRank hlt.le] at hpos ⊢
  obtain ⟨hdigits, hd⟩ := hspells.mantissaDigits
  obtain ⟨c, hc, hvalue⟩ := exists_stripped hdigits d.exponent
  have hrank : c.rank = d.rank := rank_congr (by rw [hvalue, ← hd])
  have hfirst : FirstHit tie d.rank (shortest tie d.rank) := firstHit_shortest hpos hlt
  have hshort := hfirst.digits_lt hpos hlt hrank hc
  rw [significantDigits, ← mantissaDigits_splitSign]
  refine (Nat.length_toDigits_le_iff (by decide) ?_).mpr hshort
  by_contra hzero
  have hne := hfirst.digits_ne_zero hpos
  rw [Nat.eq_zero_of_not_pos hzero] at hshort
  omega

end Fewest

/-! ## The two notations -/

/-- Digits of which the first is not zero. -/
inductive Led : List Char → Prop where
  | intro {c : Char} {ds : List Char} : c.isDigit = true → c ≠ '0' →
      (∀ d ∈ ds, d.isDigit = true) → Led (c :: ds)

/-- Nothing, or a point and digits of which the last is not zero. -/
inductive Fraction : List Char → Prop where
  | none : Fraction []
  | point {c : Char} {fs : List Char} : (∀ d ∈ fs, d.isDigit = true) → fs.getLast? = some c → c ≠ '0' →
      Fraction ('.' :: fs)

/-- A numeral without an exponent: in front of the point a whole number, or a zero that stands alone. -/
inductive PositionalNumeral : List Char → Prop where
  | whole {ds fs : List Char} : Led ds → Fraction fs → PositionalNumeral (ds ++ fs)
  | part {fs : List Char} : Fraction fs → PositionalNumeral ('0' :: fs)

/-- A numeral with an exponent: one digit in front of the point, and an exponent with a sign. -/
inductive ScientificNumeral : List Char → Prop where
  | intro {c sign : Char} {fs es : List Char} : c.isDigit = true → c ≠ '0' → Fraction fs →
      sign ∈ ['+', '-'] → Led es → ScientificNumeral (c :: fs ++ 'e' :: sign :: es)

section Digits

variable {n k : Nat} {ds : List Char}

theorem digitChar_ne_zero (hpos : 0 < n) (hlt : n < 10) : n.digitChar ≠ '0' := by
  interval_cases n <;> decide

theorem digitChars_eq (n : Nat) :
    digitChars n = if n < 10 then [n.digitChar] else digitChars (n / 10) ++ [(n % 10).digitChar] :=
  Nat.toDigits_eq_if (by decide)

theorem Led.exists_cons (h : Led ds) : ∃ c rest, ds = c :: rest ∧ c.isDigit = true ∧ c ≠ '0' := by
  cases h with
  | intro hc hne hds => exact ⟨_, _, rfl, hc, hne⟩

theorem Led.append (h : Led ds) {es : List Char} (hes : ∀ c ∈ es, c.isDigit = true) :
    Led (ds ++ es) := by
  cases h with
  | intro hc hne hds => exact .intro hc hne (List.forall_mem_append.mpr ⟨hds, hes⟩)

theorem Led.take (h : Led ds) (k : Nat) : Led (ds.take (k + 1)) := by
  cases h with
  | intro hc hne hds => exact .intro hc hne fun c h => hds c (List.mem_of_mem_take h)

/-- A number is written without zeros in front. -/
theorem led_digitChars (hn : 0 < n) : Led (digitChars n) := by
  induction n using Nat.strong_induction_on with
  | _ n ih =>
      have hdigits : ∀ c ∈ digitChars n, c.isDigit = true := fun _ => isDigit_of_mem_digitChars
      rw [digitChars_eq] at hdigits ⊢
      split_ifs at hdigits ⊢ with hlt
      · exact .intro (hdigits _ List.mem_cons_self) (digitChar_ne_zero hn hlt) fun d hd => nomatch hd
      · have hled := ih (n / 10) (by omega) (by omega)
        exact hled.append (List.forall_mem_append.mp hdigits).2

theorem getLast?_digitChars (n : Nat) : (digitChars n).getLast? = some (n % 10).digitChar := by
  rw [digitChars_eq]
  split_ifs with hlt
  · rw [Nat.mod_eq_of_lt hlt]
    rfl
  · exact List.getLast?_concat

theorem last_ne_zero (hn : ¬ 10 ∣ n) : (n % 10).digitChar ≠ '0' :=
  digitChar_ne_zero (Nat.pos_of_ne_zero fun h => hn (Nat.dvd_of_mod_eq_zero h))
    (Nat.mod_lt n (by decide))

theorem pos_of_not_dvd (hn : ¬ 10 ∣ n) : 0 < n := Nat.pos_of_ne_zero fun h => hn (h ▸ Nat.dvd_zero 10)

/-- Digits that end in no zero, behind zeros, are a fraction. -/
theorem fraction_zeros_append (hn : ¬ 10 ∣ n) (k : Nat) :
    Fraction ('.' :: (zeros k ++ digitChars n)) := by
  have hdigits : ∀ c ∈ zeros k ++ digitChars n, c.isDigit = true :=
    List.forall_mem_append.mpr ⟨fun _ => isDigit_of_mem_zeros, fun _ => isDigit_of_mem_digitChars⟩
  refine .point hdigits ?_ (last_ne_zero hn)
  rw [List.getLast?_append, getLast?_digitChars]
  rfl

/-- So are those that are left of them. -/
theorem fraction_drop (hn : ¬ 10 ∣ n) (hk : k < (digitChars n).length) :
    Fraction ('.' :: (digitChars n).drop k) := by
  refine .point (fun c hc => isDigit_of_mem_digitChars (List.mem_of_mem_drop hc)) ?_ (last_ne_zero hn)
  rw [List.getLast?_drop, if_neg (by omega), getLast?_digitChars]

variable {s : Style}

theorem positionalNumeral_positional (hs : s.wholeTail = []) (hn : ¬ 10 ∣ n) (x : Int) :
    PositionalNumeral (positional s (digitChars n) x) := by
  have hled := led_digitChars (pos_of_not_dvd hn)
  simp only [positional, hs, List.append_nil]
  split_ifs with hneg hlen
  · exact .part (fraction_zeros_append hn _)
  · have hzeros : Led (digitChars n ++ zeros (x.toNat + 1 - (digitChars n).length)) :=
      hled.append fun _ => isDigit_of_mem_zeros
    have h := PositionalNumeral.whole hzeros .none
    rwa [List.append_nil] at h
  · exact .whole (hled.take _) (fraction_drop hn (by omega))

theorem scientificNumeral_exponential (hs : s.hasPlus = true) (hn : ¬ 10 ∣ n) {x : Int} (hx : x ≠ 0) :
    ScientificNumeral (exponential s (digitChars n) x) := by
  have hexp := led_digitChars (Int.natAbs_pos.mpr hx)
  have hfraction :
      Fraction (if (digitChars n).length ≤ 1 then [] else '.' :: (digitChars n).drop 1) := by
    split_ifs with hlen
    · exact .none
    · exact fraction_drop hn (by omega)
  obtain ⟨sign, hsign, hmem⟩ : ∃ sign,
      (if x < 0 then ['-'] else if s.hasPlus then ['+'] else []) = [sign] ∧ sign ∈ ['+', '-'] := by
    rw [hs, if_pos rfl]
    split_ifs
    · exact ⟨'-', rfl, by decide⟩
    · exact ⟨'+', rfl, by decide⟩
  obtain ⟨c, rest, hds, hc, hne⟩ := (led_digitChars (pos_of_not_dvd hn)).exists_cons
  have hfirst : (digitChars n).take 1 = [c] := by rw [hds, List.take_succ_cons, List.take_zero]
  simp only [exponential, hsign, hfirst, List.append_assoc, List.cons_append, List.nil_append]
  exact .intro hc hne hfraction hmem hexp

/-! ## The digits of what is written -/

theorem noMark_of_mem_positional (hs : s.wholeTail = []) (n : Nat) (x : Int) :
    ∀ c ∈ positional s (digitChars n) x, (c != 'e' && c != 'E') = true := by
  intro c hc
  rcases mem_positional s hs hc with h | rfl | rfl
  · exact isNoMark_of_isDigit (isDigit_of_mem_digitChars h)
  · rfl
  · rfl

theorem filter_positional (hs : s.wholeTail = []) (n : Nat) (x : Int) :
    ∃ a b, (positional s (digitChars n) x).filter Char.isDigit = zeros a ++ digitChars n ++ zeros b := by
  have hzeros : ∀ k, (zeros k).filter Char.isDigit = zeros k := fun k =>
    filter_isDigit fun _ => isDigit_of_mem_zeros
  have hdigits : ∀ l : List Char, (∀ c ∈ l, c ∈ digitChars n) → l.filter Char.isDigit = l := fun l h =>
    filter_isDigit fun c hc => isDigit_of_mem_digitChars (h c hc)
  have hall : (digitChars n).filter Char.isDigit = digitChars n := hdigits _ fun _ h => h
  simp only [positional, hs, List.append_nil]
  split_ifs
  · refine ⟨(-x - 1).toNat + 1, 0, ?_⟩
    rw [List.cons_append, List.cons_append, List.filter_cons_of_pos (by decide),
      List.filter_cons_of_neg (by decide), List.filter_append, hzeros, hall]
    simp [zeros, List.replicate_succ]
  · refine ⟨0, x.toNat + 1 - (digitChars n).length, ?_⟩
    rw [List.filter_append, hzeros, hall]
    rfl
  · refine ⟨0, 0, ?_⟩
    rw [List.filter_append, List.filter_cons_of_neg (by decide), hdigits _ fun _ => List.mem_of_mem_take,
      hdigits _ fun _ => List.mem_of_mem_drop, List.take_append_drop]
    simp [zeros]

theorem mantissaDigits_exponential (s : Style) (n : Nat) (x : Int) :
    mantissaDigits (exponential s (digitChars n) x) = digitChars n := by
  have htake : ∀ c ∈ (digitChars n).take 1, c.isDigit = true := fun c hc =>
    isDigit_of_mem_digitChars (List.mem_of_mem_take hc)
  have hdrop : ∀ c ∈ (digitChars n).drop 1, c.isDigit = true := fun c hc =>
    isDigit_of_mem_digitChars (List.mem_of_mem_drop hc)
  obtain ⟨back, hback⟩ : ∃ back, exponential s (digitChars n) x = ((digitChars n).take 1 ++
      if (digitChars n).length ≤ 1 then [] else '.' :: (digitChars n).drop 1) ++ 'e' :: back :=
    ⟨_, by simp only [exponential, List.append_assoc, List.cons_append]; rfl⟩
  rw [hback]
  split_ifs with hlen
  · rw [List.append_nil, mantissaDigits_append (fun c hc => isNoMark_of_isDigit (htake c hc)) rfl,
      filter_isDigit htake, List.take_of_length_le hlen]
  · rw [mantissaDigits_append (isNoMark_of_mem_point htake hdrop) rfl, List.filter_append,
      List.filter_cons_of_neg (by decide), filter_isDigit htake, filter_isDigit hdrop,
      List.take_append_drop]

theorem significantDigits_write_le (hs : s.wholeTail = []) (d : Decimal) :
    significantDigits (d.write s) ≤ (digitChars d.digits).length := by
  rw [significantDigits, write_eq]
  split_ifs
  · obtain ⟨a, b, hfilter⟩ := filter_positional hs d.digits (place d)
    rw [mantissaDigits_of_noMark (noMark_of_mem_positional hs d.digits _), hfilter]
    exact length_strip_le a b _
  · rw [mantissaDigits_exponential]
    have h := length_strip_le 0 0 (digitChars d.digits)
    simpa [zeros] using h

end Digits

/-! ## The place of the first digit -/

section Place

variable {i : Nat} {tie : Tie} {d : Decimal} {p : Int}

theorem place_bounds (hd : 0 < d.digits) : 10 ^ place d ≤ d.value ∧ d.value < 10 ^ (place d + 1) := by
  obtain ⟨n, e⟩ := d
  obtain ⟨l, hl⟩ : ∃ l, (digitChars n).length = l + 1 :=
    ⟨_, (Nat.sub_add_cancel (length_digitChars_pos n)).symm⟩
  have hhigh : n < 10 ^ (l + 1) := (Nat.length_toDigits_le_iff (by decide) (Nat.succ_pos l)).mp hl.le
  have hlow : 10 ^ l ≤ n := by
    by_contra hlt
    rcases Nat.eq_zero_or_pos l with rfl | hpos
    · exact hlt hd
    · have hshort : (digitChars n).length ≤ l :=
        (Nat.length_toDigits_le_iff (by decide) hpos).mpr (not_le.mp hlt)
      omega
  have hplace : place ⟨n, e⟩ = l + e := by
    rw [place, hl]
    push_cast
    ring
  have hten := ten_zpow_pos e
  rw [hplace, Decimal.value, add_right_comm, zpow_add₀ (by norm_num),
    zpow_add₀ (by norm_num) (l + 1 : Int)]
  constructor
  · exact mul_le_mul_of_nonneg_right (by exact_mod_cast hlow) hten.le
  · exact mul_lt_mul_of_pos_right (by exact_mod_cast hhigh) hten

/-- Where a power of ten is its own shortest decimal, the place of the first digit and the rank agree on
which side of it a number is. -/
theorem le_place_iff (hp : shortest tie (rank ⟨1, p⟩) = ⟨1, p⟩) (hpos : 0 < i) (hlt : i < infinityRank) :
    p ≤ place (shortest tie i) ↔ Decimal.rank ⟨1, p⟩ ≤ i := by
  have hfirst : FirstHit tie i (shortest tie i) := firstHit_shortest hpos hlt
  have hrank : (shortest tie i).rank = i := rank_shortest hlt
  obtain ⟨hlow, hhigh⟩ := place_bounds (Nat.pos_of_ne_zero (hfirst.digits_ne_zero hpos))
  have hone : (1 : ℚ) < 10 := by norm_num
  constructor
  · intro h
    conv_rhs => rw [← hrank]
    refine rank_mono ?_
    rw [value_one]
    exact (zpow_le_zpow_right₀ hone.le h).trans hlow
  · intro h
    by_contra hplace
    have hle : i ≤ Decimal.rank ⟨1, p⟩ := by
      conv_lhs => rw [← hrank]
      refine rank_mono ?_
      rw [value_one]
      exact hhigh.le.trans (zpow_le_zpow_right₀ hone.le (by omega))
    -- the power of ten would be written with another place than its own
    obtain rfl := le_antisymm hle h
    rw [hp] at hplace
    exact hplace (by simp [place, show digitChars 1 = ['1'] from rfl])

end Place

/-! ## Numbers -/

section Numbers

variable {x : Float}

theorem rank_pos (h : x ≠ 0.0) (h' : x ≠ -0.0) : 0 < rank x := by
  by_contra hzero
  have hx := ofRank_rank x
  rw [Nat.eq_zero_of_not_pos hzero] at hx
  cases hsign : isNegative x with
  | false =>
      rw [hsign] at hx
      exact h (hx.symm.trans (by decide +kernel))
  | true =>
      rw [hsign] at hx
      exact h' (hx.symm.trans (by decide +kernel))

/-- The threshold below which the compact text has an exponent. -/
theorem lower_threshold : (1e-6 : Float) = ofRank false (Decimal.rank ⟨1, -6⟩) := by decide +kernel

theorem upper_threshold : (1e21 : Float) = ofRank false (Decimal.rank ⟨1, 21⟩) := by decide +kernel

/-- The compact text is positional exactly between the thresholds. -/
theorem isPositional_iff (hx : x.isFinite = true) (hpos : 0 < rank x) :
    Style.compact.isPositional (place (shortest .up (rank x))) = true ↔ 1e-6 ≤ x.abs ∧ x.abs < 1e21 := by
  have hlt := (isFinite_iff x).mp hx
  have hlow : -6 ≤ place (shortest .up (rank x)) ↔ 1e-6 ≤ x.abs := by
    rw [le_place_iff (by decide +kernel) hpos hlt, lower_threshold,
      ofRank_le_abs_iff (by decide +kernel) (by decide +kernel) hx hpos]
  have hhigh : place (shortest .up (rank x)) ≤ 20 ↔ x.abs < 1e21 := by
    have hplace : 21 ≤ place (shortest .up (rank x)) ↔ _ := le_place_iff (by decide +kernel) hpos hlt
    rw [upper_threshold, abs_lt_ofRank_iff (by decide +kernel) (by decide +kernel) hx hpos, ← not_le,
      ← hplace]
    omega
  have hcompact : Style.compact.isPositional (place (shortest .up (rank x))) = true ↔
      -6 ≤ place (shortest .up (rank x)) ∧ place (shortest .up (rank x)) ≤ 20 := by
    simp [Style.compact]
  rw [hcompact, hlow, hhigh]

/-- The compact text of a number that is not zero. -/
theorem toList_formatNumber (hx : x.isFinite = true) (hpos : 0 < rank x) :
    (formatNumber x).toList =
      Style.withSign (isNegative x) ((shortest .up (rank x)).write Style.compact) := by
  have hne : (rank x != 0) = true := bne_iff_ne.mpr hpos.ne'
  rw [formatNumber, Style.write, String.toList_ofList, Style.chars_of_isFinite _ hx, hne, Bool.true_or,
    Bool.and_true]
  rfl

theorem mantissaDigits_withSign (negative : Bool) (cs : List Char) :
    mantissaDigits (Style.withSign negative cs) = mantissaDigits cs := by
  cases negative <;> rfl

theorem readFinite?_of_not_finite (hx : x.isFinite = false) :
    readFinite? (formatNumber x).toList = none := by
  have hrank : infinityRank ≤ rank x := by
    by_contra hlt
    rw [(isFinite_iff x).mpr (not_le.mp hlt)] at hx
    cases hx
  rw [formatNumber, Style.write, String.toList_ofList]
  rcases Nat.eq_or_lt_of_le hrank with hinf | hnan
  · rw [Style.chars_of_rank_eq _ hinf.symm]
    cases isNegative x <;> decide +kernel
  · rw [Style.chars_of_isNaN _ ((isNaN_iff x).mpr hnan)]
    decide +kernel

end Numbers

/-- The compact text of a number is canonical and shortest.  Between the thresholds it is positional,
elsewhere it has an exponent; it is read as the number, and nothing that is read as the number has fewer
digits that count.  What is not finite has a text that no finite number has and that is not read. -/
theorem formatNumber_canonical :
    (∀ x : Float, x.isFinite = true → x ≠ 0.0 → x ≠ -0.0 →
      (∃ body, (formatNumber x).toList = Style.withSign (isNegative x) body ∧
        (1e-6 ≤ x.abs ∧ x.abs < 1e21 → PositionalNumeral body) ∧
        (¬ (1e-6 ≤ x.abs ∧ x.abs < 1e21) → ScientificNumeral body)) ∧
      readFinite? (formatNumber x).toList = some x ∧
      ∀ cs, readFinite? cs = some x →
        significantDigits (formatNumber x).toList ≤ significantDigits cs) ∧
    ∀ x : Float, x.isFinite = false →
      readFinite? (formatNumber x).toList = none ∧
      ∀ y : Float, y.isFinite = true → formatNumber y ≠ formatNumber x := by
  constructor
  · intro x hx hzero hzero'
    have hpos := rank_pos hzero hzero'
    have hlt := (isFinite_iff x).mp hx
    have htext := toList_formatNumber hx hpos
    have hfirst : FirstHit .up (rank x) (shortest .up (rank x)) := firstHit_shortest hpos hlt
    have hdvd := hfirst.not_dvd hpos hlt
    have hform := isPositional_iff hx hpos
    refine ⟨⟨_, htext, fun h => ?_, fun h => ?_⟩, ?_, fun cs hcs => ?_⟩
    · rw [write_eq, if_pos (hform.mpr h)]
      exact positionalNumeral_positional rfl hdvd _
    · have hexp := mt hform.mp h
      rw [write_eq, if_neg hexp]
      refine scientificNumeral_exponential rfl hdvd fun hplace => hexp ?_
      rw [hplace]
      rfl
    · rw [readFinite?_formatNumber hx, unsignZero, if_neg hzero']
    · rw [htext, significantDigits, mantissaDigits_withSign]
      exact (significantDigits_write_le rfl _).trans (length_le_significantDigits hcs hpos)
  · intro x hx
    have hnone := readFinite?_of_not_finite hx
    refine ⟨hnone, fun y hy heq => ?_⟩
    rw [← heq, readFinite?_formatNumber hy] at hnone
    cases hnone

/-- A number below the lower threshold, and an infinity. -/
theorem formatNumber_canonical_small :
    ¬ (1e-6 ≤ (-1.5e-7 : Float).abs ∧ (-1.5e-7 : Float).abs < 1e21) ∧
    (∃ body, "-1.5e-7".toList = Style.withSign true body ∧ ScientificNumeral body) ∧
    readFinite? "-0.000000150".toList = some (-1.5e-7) ∧
    significantDigits "-1.5e-7".toList ≤ significantDigits "-0.000000150".toList ∧
    readFinite? "Infinity".toList = none ∧ formatNumber 1 ≠ "Infinity" := by
  have hfinite : (-1.5e-7 : Float).isFinite = true := by decide +kernel
  have htext : formatNumber (-1.5e-7) = "-1.5e-7" := by decide +kernel
  have hsmall : ¬ (1e-6 ≤ (-1.5e-7 : Float).abs ∧ (-1.5e-7 : Float).abs < 1e21) := by decide +kernel
  have hread : readFinite? "-0.000000150".toList = some (-1.5e-7) := by decide +kernel
  have hinfinite : (1 / 0 : Float).isFinite = false := by decide +kernel
  have hinfinity : formatNumber (1 / 0) = "Infinity" := by decide +kernel
  have hsign : isNegative (-1.5e-7) = true := by decide +kernel
  obtain ⟨⟨body, hbody, -, hshape⟩, -, hfewest⟩ :=
    formatNumber_canonical.1 (-1.5e-7) hfinite (by decide +kernel) (by decide +kernel)
  obtain ⟨hnone, hother⟩ := formatNumber_canonical.2 (1 / 0) hinfinite
  rw [htext, hsign] at hbody
  rw [htext] at hfewest
  rw [hinfinity] at hnone hother
  exact ⟨hsmall, ⟨body, hbody, hshape hsmall⟩, hread, hfewest _ hread, hnone,
    hother 1 (by decide +kernel)⟩

end ExprGateway
