import ExprGateway.Proofs.Number.ReadBack
import ExprGateway.Proofs.Number.Fewest

/-!
# The language of literals

A literal is taken apart at its marks: at `e`, at the point, behind the sign.  `Spells` puts it together
again, one constructor for each form, and a text is read exactly if it can be put together so
(`decimal?_eq_some_iff`).

A literal has two decimals, the one that it writes and the one that is read, since a long exponent is
not read to its end.  What is left of such an exponent is beyond every double, and so is the exponent,
so the reading is the nearest double of what is written all the same: as long as the literal does not
itself put that many digits behind its point (`Spells.nearest_rank`).
-/

namespace ExprGateway

open Binary64 Decimal

namespace Literal

/-! ## The forms -/

/-- Digits with at most one point among them, at least one digit; the digits, and how many of them are
behind the point. -/
inductive Mantissa : List Char → List Char → Nat → Prop where
  | whole {ds : List Char} : ds ≠ [] → (∀ c ∈ ds, c.isDigit = true) → Mantissa ds ds 0
  | point {ds fs : List Char} : ds ++ fs ≠ [] → (∀ c ∈ ds, c.isDigit = true) →
      (∀ c ∈ fs, c.isDigit = true) → Mantissa (ds ++ '.' :: fs) (ds ++ fs) fs.length

/-- A sign or none, and whether it is a minus. -/
inductive Sign : List Char → Bool → Prop where
  | none : Sign [] false
  | plus : Sign ['+'] false
  | minus : Sign ['-'] true

/-- A whole number with a sign. -/
def signed (negative : Bool) (n : Nat) : Int := if negative then -(n : Int) else n

/-- A literal, the decimal that it writes and the decimal that is read. -/
inductive Spells : List Char → Decimal → Decimal → Prop where
  | plain {m ds : List Char} {k : Nat} : Mantissa m ds k →
      Spells m ⟨digitsValue ds, -k⟩ ⟨digitsValue ds, -k⟩
  | scaled {m ds sign es : List Char} {k : Nat} {mark : Char} {negative : Bool} :
      Mantissa m ds k → mark ∈ ['e', 'E'] → Sign sign negative → es ≠ [] →
      (∀ c ∈ es, c.isDigit = true) →
      Spells (m ++ mark :: (sign ++ es)) ⟨digitsValue ds, -k + signed negative (digitsValue es)⟩
        ⟨digitsValue ds, -k + signed negative (exponentValue es)⟩

/-! ## Parts are found where they are -/

theorem span_eq_iff {p : Char → Bool} {cs front back : List Char} :
    cs.span p = (front, back) ↔
      cs = front ++ back ∧ (∀ c ∈ front, p c = true) ∧ back.head?.any p = false := by
  constructor
  · intro h
    rw [List.span_eq_takeWhile_dropWhile, Prod.mk.injEq] at h
    obtain ⟨rfl, rfl⟩ := h
    refine ⟨List.takeWhile_append_dropWhile.symm, fun c hc => List.mem_takeWhile_imp hc, ?_⟩
    have hhead := List.head?_dropWhile_not p cs
    cases hd : (cs.dropWhile p).head? with
    | none => rfl
    | some c =>
        rw [hd] at hhead
        simpa using hhead
  · rintro ⟨rfl, hfront, hback⟩
    exact span_append hfront hback

theorem Mantissa.eq_some {m ds : List Char} {k : Nat} (h : Mantissa m ds k) :
    mantissa? m = some ⟨digitsValue ds, -k⟩ := by
  cases h with
  | whole hne hd => exact mantissa?_whole hd hne
  | point hne hd hf => exact mantissa?_point hd hf hne

/-- A mantissa has no place for the mark of an exponent. -/
theorem Mantissa.isNoMark {m ds : List Char} {k : Nat} (h : Mantissa m ds k) :
    ∀ c ∈ m, (c != 'e' && c != 'E') = true := by
  cases h with
  | whole _ hd => exact fun c hc => isNoMark_of_isDigit (hd c hc)
  | point _ hd hf => exact isNoMark_of_mem_point hd hf

theorem head?_any_of_mark {mark : Char} {cs : List Char} (h : mark ∈ ['e', 'E']) :
    (mark :: cs).head?.any (fun c => c != 'e' && c != 'E') = false := by
  simp only [List.mem_cons, List.not_mem_nil, or_false] at h
  rcases h with rfl | rfl <;> rfl

theorem exists_mantissa {cs : List Char} {d : Decimal} (h : mantissa? cs = some d) :
    ∃ ds k, Mantissa cs ds k ∧ d = ⟨digitsValue ds, -(k : Int)⟩ := by
  obtain ⟨whole, rest, hspan⟩ : ∃ whole rest, cs.span (· != '.') = (whole, rest) := ⟨_, _, rfl⟩
  simp only [mantissa?, hspan, Option.ite_none_right_eq_some, Bool.and_eq_true, List.all_eq_true,
    Bool.not_eq_true', List.isEmpty_eq_false_iff, List.forall_mem_append] at h
  obtain ⟨⟨⟨hwhole, hfraction⟩, hne⟩, hd⟩ := h
  obtain ⟨rfl, -, hhead⟩ := span_eq_iff.mp hspan
  cases rest with
  | nil =>
      rw [List.drop_nil, List.append_nil] at hne hd
      rw [List.append_nil]
      exact ⟨whole, 0, .whole hne hwhole, (Option.some.inj hd).symm⟩
  | cons c fraction =>
      obtain rfl : c = '.' := by simpa using hhead
      exact ⟨_, _, .point hne hwhole hfraction, (Option.some.inj hd).symm⟩

theorem Sign.splitSign_eq {sign es : List Char} {negative : Bool} (h : Sign sign negative)
    (hne : es ≠ []) (hd : ∀ c ∈ es, c.isDigit = true) : splitSign (sign ++ es) = (negative, es) := by
  cases h with
  | none =>
      obtain ⟨c, cs, rfl⟩ := List.exists_cons_of_ne_nil hne
      exact splitSign_of_isDigit (hd c List.mem_cons_self)
  | plus => rfl
  | minus => rfl

/-- A mantissa begins with a digit or the point. -/
theorem Mantissa.splitSign_append {m ds : List Char} {k : Nat} (h : Mantissa m ds k)
    (rest : List Char) : splitSign (m ++ rest) = (false, m ++ rest) := by
  cases h with
  | whole hne hd =>
      obtain ⟨c, cs, rfl⟩ := List.exists_cons_of_ne_nil hne
      exact splitSign_of_isDigit (hd c List.mem_cons_self)
  | @point ds fs hne hd hf =>
      cases ds with
      | nil => rfl
      | cons c cs => exact splitSign_of_isDigit (hd c List.mem_cons_self)

theorem exists_sign (cs : List Char) :
    ∃ sign negative es, splitSign cs = (negative, es) ∧ Sign sign negative ∧ cs = sign ++ es := by
  unfold splitSign
  split
  · exact ⟨_, _, _, rfl, .plus, rfl⟩
  · exact ⟨_, _, _, rfl, .minus, rfl⟩
  · exact ⟨_, _, _, rfl, .none, rfl⟩

/-- A text is read as a decimal exactly if it is a literal. -/
theorem decimal?_eq_some_iff {cs : List Char} {d : Decimal} :
    decimal? cs = some d ↔ ∃ q, Spells cs q d := by
  constructor
  · intro h
    obtain ⟨front, back, hspan⟩ :
        ∃ front back, cs.span (fun c => c != 'e' && c != 'E') = (front, back) := ⟨_, _, rfl⟩
    simp only [decimal?, hspan, Option.bind_eq_bind, Option.bind_eq_some_iff, Option.pure_def,
      Option.some.injEq] at h
    obtain ⟨m, hm, e, he, rfl⟩ := h
    obtain ⟨ds, k, hmantissa, rfl⟩ := exists_mantissa hm
    obtain ⟨rfl, -, hmark⟩ := span_eq_iff.mp hspan
    cases back with
    | nil =>
        obtain rfl := Option.some.inj he
        rw [List.append_nil, Int.add_zero]
        exact ⟨_, .plain hmantissa⟩
    | cons mark rest =>
        have hmark' : mark ∈ ['e', 'E'] := by
          simp only [List.head?_cons, Option.any_some, Bool.and_eq_false_iff,
            bne_eq_false_iff_eq] at hmark
          simpa using hmark
        obtain ⟨sign, negative, es, hsplit, hsign, rfl⟩ := exists_sign rest
        simp only [exponent?, hsplit, Option.ite_none_right_eq_some, Bool.and_eq_true, List.all_eq_true,
          Bool.not_eq_true', List.isEmpty_eq_false_iff] at he
        obtain ⟨⟨hdigits, hne⟩, he⟩ := he
        obtain rfl := Option.some.inj he
        exact ⟨_, .scaled hmantissa hmark' hsign hne hdigits⟩
  · rintro ⟨q, h⟩
    cases h with
    | plain hm => exact decimal?_of_mantissa hm.isNoMark hm.eq_some
    | scaled hm hmark hsign hne hdigits =>
        exact decimal?_of_span (span_append hm.isNoMark (head?_any_of_mark hmark)) hm.eq_some
          (exponent?_of_splitSign (hsign.splitSign_eq hne hdigits) hdigits hne)

/-! ## What is read is nearest to what is written -/

theorem digitsValue_lt {cs : List Char} (h : ∀ c ∈ cs, c.isDigit = true) :
    digitsValue cs < 10 ^ cs.length := by
  induction cs using List.reverseRecOn with
  | nil => exact Nat.one_pos
  | append_singleton cs c ih =>
      obtain ⟨hcs, hc⟩ := List.forall_mem_append.mp h
      have hdigit : digitValue c < 10 := by
        have := toNat_of_isDigit (hc c List.mem_cons_self)
        show c.toNat - 48 < 10
        omega
      have hstep : digitsValue (cs ++ [c]) = 10 * digitsValue cs + digitValue c := by
        simp [digitsValue]
      have := ih hcs
      rw [hstep, List.length_append, List.length_singleton, pow_succ]
      omega

theorem Mantissa.isDigit {m ds : List Char} {k : Nat} (h : Mantissa m ds k) :
    ∀ c ∈ ds, c.isDigit = true := by
  cases h with
  | whole _ hd => exact hd
  | point _ hd hf => exact List.forall_mem_append.mpr ⟨hd, hf⟩

theorem Mantissa.length_le {m ds : List Char} {k : Nat} (h : Mantissa m ds k) :
    k ≤ ds.length ∧ ds.length ≤ m.length := by
  cases h with
  | whole => exact ⟨Nat.zero_le _, le_rfl⟩
  | point => simp

section Far

variable {n m : Nat} {e e' : Int}

/-- Beyond every double a larger exponent makes no difference. -/
theorem nearest_rank_of_large (he : overflowExponent ≤ e) (hle : e ≤ e') :
    Nearest (Decimal.value ⟨n, e'⟩) (rank ⟨n, e⟩) := by
  rcases Nat.eq_zero_or_pos n with rfl | hn
  · have hzero : value ⟨0, e'⟩ = value ⟨0, e⟩ := by simp [Decimal.value]
    rw [hzero]
    exact Decimal.nearest_rank _
  · have hinf := nearest_infinity (value_infinityRank_le hn he)
    rw [(Decimal.nearest_rank ⟨n, e⟩).unique hinf]
    exact nearest_infinity (value_infinityRank_le hn (he.trans hle))

/-- Nor does a smaller one below half of the least double. -/
theorem nearest_rank_of_small (hn : n < 10 ^ m) (he : e + m ≤ -325) (hle : e' ≤ e) :
    Nearest (Decimal.value ⟨n, e'⟩) (rank ⟨n, e⟩) := by
  have hzero : ∀ {p : Int}, p + m ≤ -325 → Nearest (value ⟨n, p⟩) 0 := by
    intro p hp
    refine nearest_zero ?_
    calc 2 * value ⟨n, p⟩ ≤ 2 * (10 ^ m * 10 ^ p) := by
          have : (n : ℚ) ≤ 10 ^ m := by exact_mod_cast hn.le
          have hten := (ten_zpow_pos p).le
          rw [Decimal.value]
          gcongr
      _ = 2 * 10 ^ (p + m) := by rw [zpow_add₀ (by norm_num), zpow_natCast, mul_comm (10 ^ m)]
      _ ≤ 2 * 10 ^ (-325 : Int) := by
          have := zpow_le_zpow_right₀ (by norm_num : (1 : ℚ) ≤ 10) hp
          linarith
      _ ≤ 10 ^ (-325 : Int) * 10 := by linarith [ten_zpow_pos (-325)]
      _ = 10 ^ (-324 : Int) := (zpow_add_one₀ (by norm_num) _).symm
      _ ≤ unit := unit_bounds.1
  rw [(Decimal.nearest_rank ⟨n, e⟩).unique (hzero he)]
  exact hzero (by omega)

end Far

/-- The longest literals whose point cannot make up for an exponent that is not read to its end. -/
def lengthLimit : Nat := 65000

/-- A literal that is not too long is read as the double nearest to the number that it writes. -/
theorem Spells.nearest_rank {cs : List Char} {q d : Decimal} (h : Spells cs q d)
    (hlen : cs.length ≤ lengthLimit) : Nearest q.value d.rank := by
  cases h with
  | plain => exact Decimal.nearest_rank _
  | @scaled m ds sign es k mark negative hm hmark hsign hne hdigits =>
      rcases exponentValue_cases es with heq | ⟨hlimit, hle⟩
      · rw [heq]
        exact Decimal.nearest_rank _
      have hlimit' : (65536 : Nat) ≤ exponentValue es := hlimit
      have hshort : k ≤ ds.length ∧ ds.length ≤ 65000 := by
        obtain ⟨hk, hds⟩ := hm.length_le
        rw [List.length_append, lengthLimit] at hlen
        omega
      cases negative with
      | false =>
          have hsigned : ∀ n, signed false n = n := fun _ => rfl
          rw [hsigned, hsigned]
          refine nearest_rank_of_large ?_ (by omega)
          rw [overflowExponent]
          omega
      | true =>
          have hsigned : ∀ n, signed true n = -n := fun _ => rfl
          rw [hsigned, hsigned]
          exact nearest_rank_of_small (digitsValue_lt hm.isDigit) (by omega) (by omega)

end Literal

/-! ## Finite numbers -/

open Literal

/-- A number with a name is not finite. -/
theorem isFinite_of_named? {cs : List Char} {x : Float} (h : named? cs = some x) (negative : Bool) :
    (if negative then -x else x).isFinite = false := by
  unfold named? at h
  split at h <;> cases h <;> cases negative <;> decide

/-- A finite number is read from a sign and a literal. -/
theorem readFinite?_eq_some_iff {cs : List Char} {x : Float} :
    readFinite? cs = some x ↔
      ∃ q d, Spells (splitSign cs).2 q d ∧ d.rank < infinityRank ∧
        x = ofRank (splitSign cs).1 d.rank := by
  rw [readFinite?, Option.filter_eq_some_iff, readNumber?]
  generalize splitSign cs = parts
  obtain ⟨negative, body⟩ := parts
  dsimp only
  cases hd : decimal? body with
  | none =>
      simp only [Option.map_eq_some_iff]
      constructor
      · rintro ⟨⟨y, hy, rfl⟩, hfinite⟩
        rw [isFinite_of_named? hy] at hfinite
        cases hfinite
      · rintro ⟨q, d, hq, -⟩
        rw [decimal?_eq_some_iff.mpr ⟨q, hq⟩] at hd
        cases hd
  | some d =>
      have hrank : rank (ofRank negative d.rank) = d.rank := rank_ofRank (rank_le_infinityRank d)
      constructor
      · rintro ⟨hx, hfinite⟩
        obtain rfl := Option.some.inj hx
        obtain ⟨q, hq⟩ := decimal?_eq_some_iff.mp hd
        rw [isFinite_iff, hrank] at hfinite
        exact ⟨q, d, hq, hfinite, rfl⟩
      · rintro ⟨q, d', hq, hlt, rfl⟩
        rw [decimal?_eq_some_iff.mpr ⟨q, hq⟩] at hd
        obtain rfl := Option.some.inj hd
        exact ⟨rfl, (isFinite_iff _).mpr (by rwa [hrank])⟩

end ExprGateway
