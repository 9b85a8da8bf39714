import ExprGateway.Number.Literal
import ExprGateway.Proofs.Number.Rounding
import ExprGateway.Text.Blank

/-!
# What is written is read back

A decimal is written in one of four shapes: zeros in front of the digits, zeros behind them, a point
inside them, or an exponent behind them.  Each shape is a literal, and the literal denotes the
decimal that was written, with the zeros behind it counted as digits; so its rank is the same
(`exists_decimal?_write`).  Since the shortest decimal of a rank has this rank, a finite float is
read back from its text with its rank, and with its sign unless it is a zero in a style that drops
the sign of zero (`readNumber?_chars`).

This holds of the styles that put nothing behind a whole number, or a point and zeros (`ZeroTail`).  Where
the names of the numbers without digits are read back too, every float is (`readNumber?_chars_of_names`).
`SameNumber` leaves the sign of zero out of account, and is what the compact text keeps of a number
(`formatNumber_eq_iff`).

The characters of a text are the other half: a numeral has no blanks in it, so two numerals with a blank
between them can be told apart again.
-/

namespace ExprGateway

open Binary64 Literal Decimal

/-! ## Runs of digits -/

theorem digitsValue_eq (cs : List Char) : digitsValue cs = Nat.ofDigitChars 10 cs 0 := rfl

theorem digitsValue_digitChars (n : Nat) : digitsValue (digitChars n) = n :=
  Nat.ofDigitChars_ten_toDigits

theorem isDigit_of_mem_digitChars {n : Nat} {c : Char} (h : c ∈ digitChars n) : c.isDigit = true :=
  Nat.isDigit_of_mem_toDigits (by decide) (by decide) h

theorem isDigit_of_mem_zeros {n : Nat} {c : Char} (h : c ∈ zeros n) : c.isDigit = true := by
  rw [List.eq_of_mem_replicate h]
  rfl

theorem length_zeros (n : Nat) : (zeros n).length = n := List.length_replicate

/-- Zeros in front of digits count for nothing. -/
theorem digitsValue_zeros_append (k : Nat) (cs : List Char) :
    digitsValue (zeros k ++ cs) = digitsValue cs := by
  rw [digitsValue_eq, Nat.ofDigitChars_append, zeros, Nat.ofDigitChars_replicate_zero, Nat.mul_zero]
  rfl

theorem digitsValue_append_zeros (cs : List Char) (k : Nat) :
    digitsValue (cs ++ zeros k) = digitsValue cs * 10 ^ k := by
  rw [digitsValue_eq, Nat.ofDigitChars_append, zeros, Nat.ofDigitChars_replicate_zero, Nat.mul_comm]
  rfl

/-- An exponent is read to its end, or what is read of it has reached the limit. -/
theorem exponentValue_cases (cs : List Char) :
    exponentValue cs = digitsValue cs ∨
      exponentLimit ≤ exponentValue cs ∧ exponentValue cs ≤ digitsValue cs := by
  suffices ∀ n n' : Nat, n = n' ∨ exponentLimit ≤ n ∧ n ≤ n' →
      cs.foldl (fun n c => if n < exponentLimit then 10 * n + digitValue c else n) n =
          cs.foldl (fun n c => 10 * n + digitValue c) n' ∨
        exponentLimit ≤ cs.foldl (fun n c => if n < exponentLimit then 10 * n + digitValue c else n) n ∧
          cs.foldl (fun n c => if n < exponentLimit then 10 * n + digitValue c else n) n ≤
            cs.foldl (fun n c => 10 * n + digitValue c) n' from this 0 0 (.inl rfl)
  induction cs with
  | nil => exact fun _ _ h => h
  | cons c cs ih =>
      intro n n' h
      refine ih _ _ ?_
      dsimp only
      split_ifs with hlt
      · exact .inl (by rw [h.resolve_right fun hge => hlt.not_ge hge.1])
      · exact .inr ⟨not_lt.mp hlt, by omega⟩

/-- An exponent below the limit is read to its end. -/
theorem exponentValue_eq {cs : List Char} (h : digitsValue cs < exponentLimit) :
    exponentValue cs = digitsValue cs :=
  (exponentValue_cases cs).resolve_right fun hlimit => absurd h (hlimit.1.trans hlimit.2).not_gt

/-! ## The parts of a literal -/

section Parts

variable {whole fraction : List Char}

theorem span_append {p : Char → Bool} {front back : List Char} (hfront : ∀ c ∈ front, p c = true)
    (hback : back.head?.any p = false) : (front ++ back).span p = (front, back) := by
  rw [List.span_eq_takeWhile_dropWhile, List.takeWhile_append_of_pos hfront,
    List.dropWhile_append_of_pos hfront]
  cases back with
  | nil => simp
  | cons c back =>
      have hc : p c = false := hback
      simp [hc]

theorem ne_of_isDigit {c d : Char} (hc : c.isDigit = true) (hd : d.isDigit = false) : c ≠ d := by
  rintro rfl
  rw [hc] at hd
  cases hd

theorem mantissa?_of_span {cs rest : List Char} (hspan : cs.span (· != '.') = (whole, rest))
    (hw : ∀ c ∈ whole, c.isDigit = true) (hf : ∀ c ∈ rest.drop 1, c.isDigit = true)
    (hne : whole ++ rest.drop 1 ≠ []) :
    mantissa? cs =
      some ⟨digitsValue (whole ++ rest.drop 1), -((rest.drop 1).length : Int)⟩ := by
  have hall : (whole ++ rest.drop 1).all Char.isDigit = true := by
    rw [List.all_eq_true]
    exact fun c hc => (List.mem_append.mp hc).elim (hw c) (hf c)
  have hempty : (whole ++ rest.drop 1).isEmpty = false := List.isEmpty_eq_false_iff.mpr hne
  simp only [mantissa?, hspan, hall, hempty, Bool.not_false, Bool.and_self, if_true]

theorem isNoPoint_of_isDigit {c : Char} (h : c.isDigit = true) : (c != '.') = true :=
  bne_iff_ne.mpr (ne_of_isDigit h rfl)

theorem mantissa?_whole (hw : ∀ c ∈ whole, c.isDigit = true) (hne : whole ≠ []) :
    mantissa? whole = some ⟨digitsValue whole, 0⟩ := by
  have hspan : (whole ++ []).span (· != '.') = (whole, []) :=
    span_append (fun c hc => isNoPoint_of_isDigit (hw c hc)) rfl
  rw [List.append_nil] at hspan
  have h := mantissa?_of_span hspan hw (fun _ hc => nomatch hc)
  rw [List.drop_nil, List.append_nil] at h
  exact h hne

theorem mantissa?_point (hw : ∀ c ∈ whole, c.isDigit = true) (hf : ∀ c ∈ fraction, c.isDigit = true)
    (hne : whole ++ fraction ≠ []) :
    mantissa? (whole ++ '.' :: fraction) =
      some ⟨digitsValue (whole ++ fraction), -(fraction.length : Int)⟩ :=
  mantissa?_of_span (span_append (fun c hc => isNoPoint_of_isDigit (hw c hc)) rfl) hw hf hne

theorem decimal?_of_span {cs front back : List Char} {m : Decimal} {e : Int}
    (hspan : cs.span (fun c => c != 'e' && c != 'E') = (front, back)) (hm : mantissa? front = some m)
    (he : exponent? back = some e) : decimal? cs = some ⟨m.digits, m.exponent + e⟩ := by
  simp only [decimal?, hspan, hm, he, Option.bind_eq_bind, Option.bind_some, Option.pure_def]

/-- Where no exponent begins, all of a literal is its mantissa. -/
theorem decimal?_of_mantissa {cs : List Char} {m : Decimal}
    (hcs : ∀ c ∈ cs, (c != 'e' && c != 'E') = true) (hm : mantissa? cs = some m) :
    decimal? cs = some m := by
  have hspan : (cs ++ []).span (fun c => c != 'e' && c != 'E') = (cs, []) := span_append hcs rfl
  rw [List.append_nil] at hspan
  rw [decimal?_of_span hspan hm rfl, Int.add_zero]

theorem isNoMark_of_isDigit {c : Char} (h : c.isDigit = true) : (c != 'e' && c != 'E') = true := by
  simp [ne_of_isDigit (d := 'e') h rfl, ne_of_isDigit (d := 'E') h rfl]

theorem isNoMark_of_mem_point (hw : ∀ c ∈ whole, c.isDigit = true)
    (hf : ∀ c ∈ fraction, c.isDigit = true) :
    ∀ c ∈ whole ++ '.' :: fraction, (c != 'e' && c != 'E') = true := by
  intro c hc
  rcases List.mem_append.mp hc with hc | hc
  · exact isNoMark_of_isDigit (hw c hc)
  · rcases List.mem_cons.mp hc with rfl | hc
    · rfl
    · exact isNoMark_of_isDigit (hf c hc)

theorem splitSign_of_isDigit {c : Char} {cs : List Char} (h : c.isDigit = true) :
    splitSign (c :: cs) = (false, c :: cs) := by
  have hplus : c ≠ '+' := ne_of_isDigit h rfl
  have hminus : c ≠ '-' := ne_of_isDigit h rfl
  simp [splitSign, hplus, hminus]

theorem exponent?_of_splitSign {mark : Char} {cs digits : List Char} {negative : Bool}
    (hsign : splitSign cs = (negative, digits)) (hd : ∀ c ∈ digits, c.isDigit = true)
    (hne : digits ≠ []) :
    exponent? (mark :: cs) =
      some (if negative then -(exponentValue digits : Int) else exponentValue digits) := by
  have hall : digits.all Char.isDigit = true := List.all_eq_true.mpr hd
  have hempty : digits.isEmpty = false := List.isEmpty_eq_false_iff.mpr hne
  simp only [exponent?, hsign, hall, hempty, Bool.not_false, Bool.and_self, if_true]

end Parts

/-! ## The four shapes -/

section Shapes

variable (s : Style) {n : Nat} {e : Int}

theorem digitChars_ne_nil (n : Nat) : digitChars n ≠ [] := Nat.toDigits_ne_nil

theorem length_digitChars_pos (n : Nat) : 0 < (digitChars n).length := Nat.length_toDigits_pos

theorem exponent?_written {x : Int} (hx : x.natAbs < exponentLimit) :
    exponent? ('e' :: ((if x < 0 then ['-'] else if s.hasPlus then ['+'] else []) ++
      digitChars x.natAbs)) = some x := by
  have hsign : splitSign ((if x < 0 then ['-'] else if s.hasPlus then ['+'] else []) ++
      digitChars x.natAbs) = (decide (x < 0), digitChars x.natAbs) := by
    split_ifs with hneg hplus
    · simp [splitSign, hneg]
    · simp [splitSign, hneg]
    · obtain ⟨c, cs, hds⟩ := List.exists_cons_of_ne_nil (digitChars_ne_nil x.natAbs)
      have hc : c.isDigit = true := isDigit_of_mem_digitChars (hds ▸ List.mem_cons_self)
      rw [List.nil_append, hds, splitSign_of_isDigit hc, decide_eq_false hneg]
  have hlt : digitsValue (digitChars x.natAbs) < exponentLimit := by
    rwa [digitsValue_digitChars]
  rw [exponent?_of_splitSign hsign (fun _ => isDigit_of_mem_digitChars) (digitChars_ne_nil _),
    exponentValue_eq hlt, digitsValue_digitChars]
  rcases lt_or_ge x 0 with hneg | hnonneg
  · rw [decide_eq_true hneg, if_pos rfl]
    congr 1
    omega
  · rw [decide_eq_false (by omega), if_neg (by decide)]
    congr 1
    omega

theorem mantissa?_inside {ds : List Char} (hd : ∀ c ∈ ds, c.isDigit = true) (hne : ds ≠ []) (k : Nat) :
    mantissa? (ds.take k ++ '.' :: ds.drop k) =
        some ⟨digitsValue ds, -((ds.length - k : Nat) : Int)⟩ ∧
      ∀ c ∈ ds.take k ++ '.' :: ds.drop k, (c != 'e' && c != 'E') = true := by
  have hw : ∀ c ∈ ds.take k, c.isDigit = true := fun c hc => hd c (List.mem_of_mem_take hc)
  have hf : ∀ c ∈ ds.drop k, c.isDigit = true := fun c hc => hd c (List.mem_of_mem_drop hc)
  have hne' : ds.take k ++ ds.drop k ≠ [] := by rwa [List.take_append_drop]
  refine ⟨?_, isNoMark_of_mem_point hw hf⟩
  rw [mantissa?_point hw hf hne', List.take_append_drop, List.length_drop]

theorem decimal?_exponential (h : (e + (digitChars n).length - 1).natAbs < exponentLimit) :
    decimal? (exponential s (digitChars n) (e + (digitChars n).length - 1)) = some ⟨n, e⟩ := by
  have hexp := exponent?_written s h
  have hdigits : ∀ c ∈ digitChars n, c.isDigit = true := fun _ => isDigit_of_mem_digitChars
  have hlen := length_digitChars_pos n
  by_cases hshort : (digitChars n).length ≤ 1
  · have htake : (digitChars n).take 1 = digitChars n := List.take_of_length_le hshort
    have he : 0 + (e + (digitChars n).length - 1) = e := by omega
    simp only [exponential, if_pos hshort, htake, List.append_nil, List.append_assoc,
      List.cons_append]
    rw [decimal?_of_span (span_append (fun c hc => isNoMark_of_isDigit (hdigits c hc)) rfl)
      (mantissa?_whole hdigits (digitChars_ne_nil n)) hexp, digitsValue_digitChars, he]
  · obtain ⟨hm, hmarks⟩ := mantissa?_inside hdigits (digitChars_ne_nil n) 1
    have he : -(((digitChars n).length - 1 : Nat) : Int) + (e + (digitChars n).length - 1) = e := by
      omega
    rw [exponential, if_neg hshort, List.append_assoc, List.cons_append,
      decimal?_of_span (span_append hmarks rfl) hm hexp, digitsValue_digitChars, he]

theorem decimal?_zeros_before (n k : Nat) :
    decimal? ('0' :: '.' :: zeros k ++ digitChars n) =
      some ⟨n, -((k + (digitChars n).length : Nat) : Int)⟩ := by
  have hw : ∀ c ∈ zeros 1, c.isDigit = true := fun _ => isDigit_of_mem_zeros
  have hf : ∀ c ∈ zeros k ++ digitChars n, c.isDigit = true := fun c hc =>
    (List.mem_append.mp hc).elim isDigit_of_mem_zeros isDigit_of_mem_digitChars
  have hm := mantissa?_point hw hf (List.cons_ne_nil _ _)
  rw [digitsValue_zeros_append, digitsValue_zeros_append, digitsValue_digitChars, List.length_append,
    length_zeros] at hm
  exact decimal?_of_mantissa (isNoMark_of_mem_point hw hf) hm

theorem decimal?_zeros_behind (n k : Nat) :
    decimal? (digitChars n ++ zeros k) = some ⟨n * 10 ^ k, 0⟩ := by
  have hd : ∀ c ∈ digitChars n ++ zeros k, c.isDigit = true := fun c hc =>
    (List.mem_append.mp hc).elim isDigit_of_mem_digitChars isDigit_of_mem_zeros
  have hm := mantissa?_whole hd (List.append_ne_nil_of_left_ne_nil (digitChars_ne_nil n) _)
  rw [digitsValue_append_zeros, digitsValue_digitChars] at hm
  exact decimal?_of_mantissa (fun c hc => isNoMark_of_isDigit (hd c hc)) hm

theorem decimal?_inside (n k : Nat) :
    decimal? ((digitChars n).take k ++ '.' :: (digitChars n).drop k) =
      some ⟨n, -(((digitChars n).length - k : Nat) : Int)⟩ := by
  obtain ⟨hm, hmarks⟩ := mantissa?_inside
    (fun _ => isDigit_of_mem_digitChars : ∀ c ∈ digitChars n, c.isDigit = true)
    (digitChars_ne_nil n) k
  rw [digitsValue_digitChars] at hm
  exact decimal?_of_mantissa hmarks hm

theorem decimal?_zeros_around_point (n k j : Nat) :
    decimal? (digitChars n ++ zeros k ++ '.' :: zeros j) = some ⟨n * 10 ^ (k + j), -(j : Int)⟩ := by
  have hw : ∀ c ∈ digitChars n ++ zeros k, c.isDigit = true := fun c hc =>
    (List.mem_append.mp hc).elim isDigit_of_mem_digitChars isDigit_of_mem_zeros
  have hf : ∀ c ∈ zeros j, c.isDigit = true := fun _ => isDigit_of_mem_zeros
  have hm := mantissa?_point hw hf (by simp [digitChars_ne_nil])
  have hzeros : zeros k ++ zeros j = zeros (k + j) := List.replicate_append_replicate
  rw [List.append_assoc (digitChars n) (zeros k) (zeros j), hzeros, digitsValue_append_zeros,
    digitsValue_digitChars, length_zeros] at hm
  exact decimal?_of_mantissa (isNoMark_of_mem_point hw hf) hm

/-- What may follow a whole number and leave its value: nothing, or zeros behind a point. -/
inductive ZeroTail : List Char → Prop where
  | none : ZeroTail []
  | point (j : Nat) : ZeroTail ('.' :: zeros j)

theorem value_zeros_behind (n k j : Nat) :
    Decimal.value ⟨n * 10 ^ (k + j), -(j : Int)⟩ = Decimal.value ⟨n, k⟩ := by
  have hpow : ((Nat.pow 10 j : Nat) : ℚ) ≠ 0 := Nat.cast_ne_zero.mpr (Nat.pow_pos (by decide)).ne'
  rw [Decimal.value_neg, div_eq_iff hpow]
  change ((n * 10 ^ (k + j) : Nat) : ℚ) = n * 10 ^ (k : ℤ) * ((10 ^ j : Nat) : ℚ)
  push_cast
  rw [pow_add, zpow_natCast]
  ring

/-- Only zeros behind the digits are read as digits, and these do not change the rank. -/
theorem exists_decimal?_positional (hs : ZeroTail s.wholeTail) :
    ∃ d, decimal? (positional s (digitChars n) (e + (digitChars n).length - 1)) = some d ∧
      d.rank = rank ⟨n, e⟩ := by
  have hlen := length_digitChars_pos n
  by_cases hneg : e + (digitChars n).length - 1 < 0
  · refine ⟨_, by rw [positional, if_pos hneg]; exact decimal?_zeros_before n _, ?_⟩
    congr 2
    omega
  · simp only [positional, if_neg hneg]
    split_ifs with hall
    · obtain ⟨k, rfl⟩ : ∃ k : Nat, e = k := ⟨e.toNat, by omega⟩
      have hk : ((k : Int) + (digitChars n).length - 1).toNat + 1 - (digitChars n).length = k := by
        omega
      rw [hk]
      generalize s.wholeTail = tail at hs
      cases hs with
      | none =>
          rw [List.append_nil]
          exact ⟨_, decimal?_zeros_behind n k, rank_congr (value_zeros_behind n k 0)⟩
      | point j =>
          exact ⟨_, decimal?_zeros_around_point n k j, rank_congr (value_zeros_behind n k j)⟩
    · refine ⟨_, decimal?_inside n _, ?_⟩
      congr 2
      omega

/-- The text of a decimal denotes a decimal of the same rank. -/
theorem exists_decimal?_write (hs : ZeroTail s.wholeTail) {d : Decimal} (hd : d.Moderate) :
    ∃ d', decimal? (d.write s) = some d' ∧ d'.rank = d.rank := by
  obtain ⟨n, e⟩ := d
  have hlow : -1074 ≤ e := hd.le_exponent
  have hhigh : e ≤ 310 := hd.exponent_le
  have hlen : (digitChars n).length ≤ 6500 := hd.length_le
  have hlimit : exponentLimit = 65536 := rfl
  simp only [write]
  split_ifs with hpos
  · exact exists_decimal?_positional s hs
  · exact ⟨_, decimal?_exponential s (by omega), rfl⟩

/-- Positional writing adds zeros and a point to the digits, and nothing else. -/
theorem mem_positional (hs : s.wholeTail = []) {ds : List Char} {c : Char}
    (hc : c ∈ positional s ds e) : c ∈ ds ∨ c = '0' ∨ c = '.' := by
  have hzero : ∀ {n}, c ∈ zeros n → c = '0' := fun h => List.eq_of_mem_replicate h
  simp only [positional, hs] at hc
  split_ifs at hc
  · simp only [List.cons_append, List.mem_cons, List.mem_append] at hc
    rcases hc with h | h | h | h
    · exact .inr (.inl h)
    · exact .inr (.inr h)
    · exact .inr (.inl (hzero h))
    · exact .inl h
  · simp only [List.append_nil, List.mem_append] at hc
    exact hc.imp_right fun h => .inl (hzero h)
  · simp only [List.mem_append, List.mem_cons] at hc
    rcases hc with h | h | h
    · exact .inl (List.mem_of_mem_take h)
    · exact .inr (.inr h)
    · exact .inl (List.mem_of_mem_drop h)

/-- The text of a decimal begins with a digit. -/
theorem exists_digit_write (d : Decimal) :
    ∃ c cs, d.write s = c :: cs ∧ c.isDigit = true := by
  obtain ⟨c, cs, hds⟩ := List.exists_cons_of_ne_nil (digitChars_ne_nil d.digits)
  have hc : c.isDigit = true := isDigit_of_mem_digitChars (hds ▸ List.mem_cons_self)
  simp only [write, positional, exponential, hds, List.cons_append, List.take_succ_cons]
  split_ifs
  · exact ⟨_, _, rfl, rfl⟩
  all_goals exact ⟨_, _, rfl, hc⟩

end Shapes

/-! ## Floats -/

theorem splitSign_withSign (negative : Bool) {cs : List Char}
    (h : ∃ c rest, cs = c :: rest ∧ c.isDigit = true) :
    splitSign (Style.withSign negative cs) = (negative, cs) := by
  obtain ⟨c, rest, rfl, hc⟩ := h
  cases negative with
  | true => rfl
  | false => exact splitSign_of_isDigit hc

theorem Style.chars_of_isFinite (s : Style) {x : Float} (hx : x.isFinite = true) :
    s.chars x = withSign (isNegative x && (rank x != 0 || s.keepsZeroSign))
      ((shortest s.tie (rank x)).write s) := by
  have hlt := (isFinite_iff x).mp hx
  simp only [chars, isNaN_eq_false hlt.le, hlt.ne, if_false, Bool.false_eq_true]

theorem Style.chars_of_rank_eq (s : Style) {x : Float} (hx : rank x = infinityRank) :
    s.chars x = s.infinity (isNegative x) := by
  simp only [chars, isNaN_eq_false hx.le, hx, if_true, if_false, Bool.false_eq_true]

theorem Style.chars_of_isNaN (s : Style) {x : Float} (hx : x.isNaN = true) : s.chars x = s.nan := by
  simp only [chars, hx, if_true]

/-- A finite float is read back from its text; only the sign of zero may be lost. -/
theorem readNumber?_chars {s : Style} (hs : ZeroTail s.wholeTail) {x : Float} (hx : x.isFinite = true) :
    readNumber? (s.chars x) =
      some (ofRank (isNegative x && (rank x != 0 || s.keepsZeroSign)) (rank x)) := by
  have hlt := (isFinite_iff x).mp hx
  obtain ⟨d, hd, hrank⟩ := exists_decimal?_write s hs (moderate_shortest s.tie hlt)
  rw [rank_shortest hlt] at hrank
  simp only [readNumber?, s.chars_of_isFinite hx, splitSign_withSign _ (exists_digit_write s _), hd,
    hrank]

/-- Any float is read back if the names of the infinities and of the one float that is no number are. -/
theorem readNumber?_chars_of_names {s : Style} (hs : ZeroTail s.wholeTail)
    (hnan : readNumber? s.nan = some Float.nan)
    (hinfinity : ∀ negative, readNumber? (s.infinity negative) = some (ofRank negative infinityRank))
    (x : Float) :
    readNumber? (s.chars x) =
      some (ofRank (isNegative x && (rank x != 0 || s.keepsZeroSign)) (rank x)) := by
  rcases lt_or_ge (rank x) infinityRank with hfinite | hle
  · exact readNumber?_chars hs ((isFinite_iff x).mpr hfinite)
  · have hpos : (rank x != 0) = true := bne_iff_ne.mpr (by rw [infinityRank_eq] at hle; omega)
    rw [hpos, Bool.true_or, Bool.and_true]
    rcases hle.eq_or_lt with hinf | hnan'
    · rw [Style.chars_of_rank_eq _ hinf.symm, hinfinity, hinf]
    · have hisNaN : x.isNaN = true := (isNaN_iff x).mpr hnan'
      obtain rfl : x = Float.nan := by simpa using hisNaN
      rw [Style.chars_of_isNaN _ hisNaN, hnan, ofRank_rank]

/-- The plain text of a float is read back as this float, the names of infinities and of the one float
that is no number included. -/
theorem readNumber?_plain (x : Float) : readNumber? (Style.plain.chars x) = some x := by
  rw [readNumber?_chars_of_names .none rfl (fun negative => by cases negative <;> rfl)]
  simp only [Style.plain, Bool.or_true, Bool.and_true, ofRank_rank]

theorem readFinite?_of_read {cs : List Char} {y : Float} (h : readNumber? cs = some y) :
    readFinite? cs = if y.isFinite = true then some y else none := by
  rw [readFinite?, h, Option.filter_some]

/-! ## Numbers up to the sign of zero -/

/-- The same number, if both zeros are one. -/
def SameNumber (x y : Float) : Prop := x = y ∨ rank x = 0 ∧ rank y = 0

namespace SameNumber

variable {x y z : Float}

theorem refl (x : Float) : SameNumber x x := .inl rfl

theorem symm (h : SameNumber x y) : SameNumber y x := h.imp Eq.symm And.symm

theorem trans (h : SameNumber x y) (h' : SameNumber y z) : SameNumber x z := by
  rcases h with rfl | ⟨hx, hy⟩
  · exact h'
  · rcases h' with rfl | ⟨-, hz⟩
    · exact .inr ⟨hx, hy⟩
    · exact .inr ⟨hx, hz⟩

theorem rank_eq (h : SameNumber x y) : rank x = rank y := by
  rcases h with rfl | ⟨hx, hy⟩
  · rfl
  · rw [hx, hy]

theorem isFinite_iff (h : SameNumber x y) : x.isFinite = true ↔ y.isFinite = true := by
  rw [Binary64.isFinite_iff, Binary64.isFinite_iff, h.rank_eq]

/-- The compact text says nothing of the sign of zero. -/
theorem formatNumber_eq (h : SameNumber x y) : formatNumber x = formatNumber y := by
  rcases h with rfl | ⟨hx, hy⟩
  · rfl
  · have hzero : ∀ {z : Float}, rank z = 0 →
        Style.compact.chars z = (shortest Style.compact.tie 0).write Style.compact := by
      intro z hz
      rw [Style.chars_of_isFinite _ ((Binary64.isFinite_iff z).mpr (by rw [hz]; decide)), hz]
      have hkeeps : ((0 : Nat) != 0 || Style.compact.keepsZeroSign) = false := rfl
      rw [hkeeps, Bool.and_false, Style.withSign, if_neg (by decide)]
    rw [formatNumber, formatNumber, Style.write, Style.write, hzero hx, hzero hy]

end SameNumber

/-- The number without the sign of zero. -/
def unsignZero (x : Float) : Float := if x = -0.0 then 0.0 else x

theorem ofRank_unsigned (x : Float) : ofRank (isNegative x && rank x != 0) (rank x) = unsignZero x := by
  have hx := ofRank_rank x
  by_cases hzero : rank x = 0
  · rw [hzero] at hx ⊢
    rw [unsignZero, ← hx]
    cases isNegative x <;> decide
  · have hne : x ≠ -0.0 := by
      rintro rfl
      exact hzero (by decide)
    rw [unsignZero, if_neg hne, bne_iff_ne.mpr hzero, Bool.and_true, hx]

theorem SameNumber.unsignZero (x : Float) : SameNumber x (unsignZero x) := by
  by_cases hx : x = -0.0
  · subst hx
    exact .inr ⟨by decide, by decide⟩
  · rw [ExprGateway.unsignZero, if_neg hx]
    exact .refl x

theorem unsignZero_eq_iff {x y : Float} : unsignZero x = unsignZero y ↔ SameNumber x y := by
  constructor
  · intro h
    exact (SameNumber.unsignZero x).trans (h ▸ (SameNumber.unsignZero y).symm)
  · rintro (rfl | ⟨hx, hy⟩)
    · rfl
    · rw [← ofRank_unsigned, ← ofRank_unsigned, hx, hy, bne_self_eq_false, Bool.and_false,
        Bool.and_false]

/-- The compact text of a float is read back as this float, but for the sign of zero. -/
theorem readNumber?_formatNumber (x : Float) :
    readNumber? (formatNumber x).toList = some (unsignZero x) := by
  have hkeeps : Style.compact.keepsZeroSign = false := rfl
  rw [formatNumber, Style.write, String.toList_ofList,
    readNumber?_chars_of_names .none rfl (fun negative => by cases negative <;> rfl), hkeeps,
    Bool.or_false, ofRank_unsigned]

theorem readFinite?_formatNumber {x : Float} (hx : x.isFinite = true) :
    readFinite? (formatNumber x).toList = some (unsignZero x) := by
  rw [readFinite?_of_read (readNumber?_formatNumber x),
    if_pos ((SameNumber.unsignZero x).isFinite_iff.mp hx)]

/-- Two floats have one compact text where they are one number, and nowhere else. -/
theorem formatNumber_eq_iff {x y : Float} : formatNumber x = formatNumber y ↔ SameNumber x y := by
  refine ⟨fun h => ?_, SameNumber.formatNumber_eq⟩
  have hread := readNumber?_formatNumber x
  rw [h, readNumber?_formatNumber y] at hread
  exact unsignZero_eq_iff.mp (Option.some.inj hread).symm

/-! ## Characters of numerals -/

/-- The characters that numbers are written with. -/
def isNumeral (c : Char) : Bool := c.isDigit || c ∈ ['.', '-', '+', 'e']

/-- A text of such characters. -/
def Numeral (cs : List Char) : Prop := ∀ c ∈ cs, isNumeral c = true

theorem toNat_of_isDigit {c : Char} (h : c.isDigit = true) : 48 ≤ c.toNat ∧ c.toNat ≤ 57 := by
  simp only [Char.isDigit, Bool.and_eq_true, decide_eq_true_eq, ge_iff_le, UInt32.le_iff_toNat_le] at h
  exact h

/-- A numeral is written without blanks. -/
theorem isBlank_of_isNumeral {c : Char} (h : isNumeral c = true) : isBlank c = false := by
  rw [isNumeral, Bool.or_eq_true, decide_eq_true_eq] at h
  rcases h with hdigit | hmark
  · obtain ⟨hlow, hhigh⟩ := toNat_of_isDigit hdigit
    simp [isBlank]
    omega
  · simp only [List.mem_cons, List.not_mem_nil, or_false] at hmark
    rcases hmark with rfl | rfl | rfl | rfl <;> rfl

theorem toNat_of_isNumeral {c : Char} (h : isNumeral c = true) : c.toNat < 128 := by
  rw [isNumeral, Bool.or_eq_true, decide_eq_true_eq] at h
  rcases h with hdigit | hmark
  · have := toNat_of_isDigit hdigit
    omega
  · simp only [List.mem_cons, List.not_mem_nil, or_false] at hmark
    rcases hmark with rfl | rfl | rfl | rfl <;> decide

namespace Numeral

variable {cs ds : List Char} {c : Char}

@[simp] theorem nil : Numeral [] := fun _ hc => nomatch hc

@[simp] theorem cons_iff : Numeral (c :: cs) ↔ isNumeral c = true ∧ Numeral cs := List.forall_mem_cons

@[simp] theorem append_iff : Numeral (cs ++ ds) ↔ Numeral cs ∧ Numeral ds := List.forall_mem_append

theorem of_isDigit (h : ∀ c ∈ cs, c.isDigit = true) : Numeral cs := fun c hc => by
  rw [isNumeral, h c hc, Bool.true_or]

@[simp] theorem digitChars (n : Nat) : Numeral (digitChars n) :=
  of_isDigit fun _ => isDigit_of_mem_digitChars

@[simp] theorem zeros (n : Nat) : Numeral (zeros n) := of_isDigit fun _ => isDigit_of_mem_zeros

theorem take (h : Numeral cs) (n : Nat) : Numeral (cs.take n) :=
  fun c hc => h c (List.mem_of_mem_take hc)

theorem drop (h : Numeral cs) (n : Nat) : Numeral (cs.drop n) :=
  fun c hc => h c (List.mem_of_mem_drop hc)

theorem tail (h : Numeral cs) : Numeral cs.tail := fun c hc => h c (List.mem_of_mem_tail hc)

theorem write {s : Style} (hs : Numeral s.wholeTail) (d : Decimal) : Numeral (d.write s) := by
  have hmarks : isNumeral '.' = true ∧ isNumeral '-' = true ∧ isNumeral '+' = true ∧
    isNumeral 'e' = true ∧ isNumeral '0' = true := by decide
  simp only [Decimal.write, positional, exponential]
  split_ifs <;> simp [hmarks, hs, take, drop, tail]

theorem withSign (h : Numeral cs) (negative : Bool) : Numeral (Style.withSign negative cs) := by
  cases negative with
  | true => exact cons_iff.mpr ⟨rfl, h⟩
  | false => exact h

/-- A finite float is written as a numeral. -/
theorem chars {s : Style} (hs : Numeral s.wholeTail) {x : Float} (hx : x.isFinite = true) :
    Numeral (s.chars x) := by
  rw [s.chars_of_isFinite hx]
  exact (write hs _).withSign _

theorem fixed {x : Float} (hx : x.isFinite = true) (places : Nat) :
    Numeral (fixed places x).toList := by
  have hlt := (isFinite_iff x).mp hx
  have hpoint : isNumeral '.' = true := rfl
  simp only [ExprGateway.fixed, isNaN_eq_false hlt.le, hlt.ne, if_false, Bool.false_eq_true,
    String.toList_ofList]
  exact withSign (by simp [hpoint, take, drop]) _

/-- Reports are no exception. -/
theorem json_chars {x : Float} (hx : x.isFinite = true) : Numeral (Style.json.chars x) := by
  have htail : Numeral ['.', '0'] := cons_iff.mpr ⟨rfl, cons_iff.mpr ⟨rfl, nil⟩⟩
  exact chars htail hx

end Numeral

/-- What holds of the characters of numerals and of those of the names in a style holds of all its
texts. -/
theorem Style.forall_mem_chars {s : Style} {p : Char → Prop} (htail : Numeral s.wholeTail)
    (hnumeral : ∀ c, isNumeral c = true → p c) (hnan : ∀ c ∈ s.nan, p c)
    (hinfinity : ∀ negative, ∀ c ∈ s.infinity negative, p c) (x : Float) : ∀ c ∈ s.chars x, p c := by
  rcases lt_trichotomy (rank x) infinityRank with hfinite | hinf | hnan'
  · exact fun c hc => hnumeral c (Numeral.chars htail ((isFinite_iff x).mpr hfinite) c hc)
  · rw [s.chars_of_rank_eq hinf]
    exact hinfinity _
  · rw [s.chars_of_isNaN ((isNaN_iff x).mpr hnan')]
    exact hnan

end ExprGateway
