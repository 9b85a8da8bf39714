import ExprGateway.Proofs.Expression.Factoring
import ExprGateway.Proofs.Number.Literals

/-!
# The language of tokens

A piece writes a token if it is a symbol or an unsigned literal whose nearest double is finite
(`Writes`).  This says nothing of how a number is read.  The two agree on every piece that is read as
the double nearest to what it writes (`ofPiece?_eq_some_iff`), and that is every piece of up to
`lengthLimit` characters (`readNearest_of_length`): a run has no sign in it, so of the literals it can
only be an unsigned one, and the names of numbers are not finite.

Hence an expression has tokens exactly if all of its pieces write one, and the error is otherwise the
first run that writes none (`tokenize_language`).
-/

namespace ExprGateway

open Binary64 Literal Token

/-! ## Unsigned literals -/

/-- A literal without any sign, and the decimal that it writes. -/
inductive Unsigned : List Char → Decimal → Prop where
  | plain {m ds : List Char} {k : Nat} : Mantissa m ds k → Unsigned m ⟨digitsValue ds, -k⟩
  | scaled {m ds es : List Char} {k : Nat} {mark : Char} :
      Mantissa m ds k → mark ∈ ['e', 'E'] → es ≠ [] → (∀ c ∈ es, c.isDigit = true) →
      Unsigned (m ++ mark :: es) ⟨digitsValue ds, -k + digitsValue es⟩

/-- A literal is read as the double nearest to the number that it writes. -/
def ReadNearest (p : List Char) : Prop :=
  ∀ q, Unsigned p q → ∃ r, Nearest q.value r ∧ readNumber? p = some (ofRank false r)

section Literals

variable {p : List Char} {q d : Decimal}

theorem Unsigned.spells (h : Unsigned p q) : ∃ d, Spells p q d := by
  cases h with
  | plain hm => exact ⟨_, .plain hm⟩
  | scaled hm hmark hne hd => exact ⟨_, .scaled hm hmark .none hne hd⟩

/-- The literals without symbols are those without signs. -/
theorem Literal.Spells.unsigned (h : Spells p q d) (hrun : ∀ c ∈ p, isSymbol c = false) :
    Unsigned p q := by
  cases h with
  | plain hm => exact .plain hm
  | @scaled m ds sign es k mark negative hm hmark hsign hne hd =>
      have hmem : ∀ c ∈ sign, c ∈ m ++ mark :: (sign ++ es) := fun c hc => by simp [hc]
      cases hsign with
      | none => exact .scaled hm hmark hne hd
      | plus => exact nomatch hrun '+' (hmem '+' List.mem_cons_self)
      | minus => exact nomatch hrun '-' (hmem '-' List.mem_cons_self)

theorem Unsigned.splitSign_eq (h : Unsigned p q) : splitSign p = (false, p) := by
  cases h with
  | @plain m ds k hm =>
      have h := hm.splitSign_append []
      rwa [List.append_nil] at h
  | scaled hm => exact hm.splitSign_append _

theorem readNearest_of_length (hlen : p.length ≤ lengthLimit) : ReadNearest p := by
  intro q hq
  obtain ⟨d, hd⟩ := hq.spells
  refine ⟨d.rank, hd.nearest_rank hlen, ?_⟩
  simp only [readNumber?, hq.splitSign_eq, decimal?_eq_some_iff.mpr ⟨q, hd⟩]

/-- What an unsigned literal reads as is finite if the nearest double is. -/
theorem readFinite?_of_unsigned {r : Nat} (hread : ReadNearest p) (hq : Unsigned p q)
    (hr : Nearest q.value r) :
    readFinite? p = if r < infinityRank then some (ofRank false r) else none := by
  obtain ⟨r', hr', hp⟩ := hread q hq
  obtain rfl := hr.unique hr'
  rw [readFinite?_of_read hp]
  simp only [isFinite_iff, rank_ofRank hr.le_infinity]

theorem splitSign_of_run (hrun : ∀ c ∈ p, isSymbol c = false) : splitSign p = (false, p) := by
  unfold splitSign
  split
  · exact nomatch hrun '+' List.mem_cons_self
  · exact nomatch hrun '-' List.mem_cons_self
  · rfl

/-- A run that is read as a finite number is an unsigned literal. -/
theorem exists_unsigned {x : Float} (hrun : ∀ c ∈ p, isSymbol c = false)
    (h : readFinite? p = some x) : ∃ q, Unsigned p q := by
  obtain ⟨q, d, hd, -, -⟩ := readFinite?_eq_some_iff.mp h
  rw [splitSign_of_run hrun] at hd
  exact ⟨q, hd.unsigned hrun⟩

end Literals

/-! ## What pieces write -/

/-- A run that is an unsigned literal with a finite nearest double, and this double. -/
inductive WritesNumber (p : List Char) : Float → Prop where
  | intro {q : Decimal} {r : Nat} : (∀ c ∈ p, isSymbol c = false) → Unsigned p q →
      Nearest q.value r → r < infinityRank → WritesNumber p (ofRank false r)

/-- A symbol writes its token, a run a number. -/
inductive Writes : List Char → Token → Prop where
  | symbol {c : Char} {t : Token} : ofSymbol? c = some t → Writes [c] t
  | number {p : List Char} {x : Float} : WritesNumber p x → Writes p (.number x)

/-- The first run that writes nothing, and the error that names it with its place among the pieces. -/
inductive FirstOffence : List (List Char) → Malformed → Prop where
  | intro {before after : List (List Char)} {p : List Char} : (∀ q ∈ before, ∃ t, Writes q t) →
      (∀ c ∈ p, isSymbol c = false) → (¬ ∃ x, WritesNumber p x) →
      FirstOffence (before ++ p :: after) (.invalidToken (String.ofList p) before.length)

section Pieces

variable {p : List Char} {t : Token}

theorem readFinite?_eq_some_iff_writes {x : Float} (hrun : ∀ c ∈ p, isSymbol c = false)
    (hread : ReadNearest p) : readFinite? p = some x ↔ WritesNumber p x := by
  constructor
  · intro h
    obtain ⟨q, hq⟩ := exists_unsigned hrun h
    obtain ⟨r, hr, -⟩ := hread q hq
    rw [readFinite?_of_unsigned hread hq hr, Option.ite_none_right_eq_some] at h
    obtain ⟨hlt, hx⟩ := h
    obtain rfl := Option.some.inj hx
    exact .intro hrun hq hr hlt
  · rintro ⟨-, hq, hr, hlt⟩
    rw [readFinite?_of_unsigned hread hq hr, if_pos hlt]

theorem not_run {c : Char} (hc : isSymbol c = true) : ¬ ∀ d ∈ [c], isSymbol d = false := by
  intro hrun
  rw [hrun c List.mem_cons_self] at hc
  cases hc

/-- A piece is taken for the token that it writes. -/
theorem ofPiece?_eq_some_iff (hp : IsPiece p) (hread : ReadNearest p) :
    ofPiece? p = some t ↔ Writes p t := by
  cases hp with
  | @symbol c hc =>
      rw [ofPiece?_of_isSymbol hc]
      constructor
      · exact .symbol
      · intro h
        cases h with
        | symbol h => exact h
        | number h =>
            obtain ⟨hrun, -⟩ := h
            exact absurd hrun (not_run hc)
  | run hne hrun =>
      rw [ofPiece?_of_run hrun, Option.map_eq_some_iff]
      constructor
      · rintro ⟨x, hx, rfl⟩
        exact .number ((readFinite?_eq_some_iff_writes hrun hread).mp hx)
      · intro h
        cases h with
        | symbol hs => exact absurd hrun (not_run (Option.isSome_iff_exists.mpr ⟨t, hs⟩))
        | number h => exact ⟨_, (readFinite?_eq_some_iff_writes hrun hread).mpr h, rfl⟩

/-- A symbol always writes its token, so what writes none is a run that writes no number. -/
theorem ofPiece?_eq_none_iff (hp : IsPiece p) (hread : ReadNearest p) :
    ofPiece? p = none ↔ (∀ c ∈ p, isSymbol c = false) ∧ ¬ ∃ x, WritesNumber p x := by
  cases hp with
  | @symbol c hc =>
      rw [ofPiece?_of_isSymbol hc]
      constructor
      · intro h
        rw [isSymbol, h] at hc
        cases hc
      · rintro ⟨hrun, -⟩
        exact absurd hrun (not_run hc)
  | run hne hrun =>
      rw [ofPiece?_of_run hrun, Option.map_eq_none_iff, Option.eq_none_iff_forall_ne_some, not_exists]
      simp only [ne_eq, readFinite?_eq_some_iff_writes hrun hread]
      exact (and_iff_right hrun).symm

end Pieces

/-! ## What expressions write -/

section Expressions

variable {e : String} {ps : List (List Char)} {ts : List Token} {d : Malformed}

theorem forall₂_congr_of_mem {α β : Type} {R S : α → β → Prop} {xs : List α} {ys : List β}
    (h : ∀ x ∈ xs, ∀ y, R x y ↔ S x y) : List.Forall₂ R xs ys ↔ List.Forall₂ S xs ys := by
  rw [List.forall₂_iff_zip, List.forall₂_iff_zip]
  refine and_congr_right fun _ => ⟨fun hR x y hxy => ?_, fun hS x y hxy => ?_⟩
  · exact (h x (List.of_mem_zip hxy).1 y).mp (hR hxy)
  · exact (h x (List.of_mem_zip hxy).1 y).mpr (hS hxy)

variable (hps : Factored (kept e) ps) (hread : ∀ p ∈ ps, ReadNearest p)
include hps hread

theorem tokenize_eq_ok_iff_writes : tokenize e = .ok ts ↔ List.Forall₂ Writes ps ts := by
  rw [tokenize_eq_ok_iff, ← factored_iff.mp hps]
  exact forall₂_congr_of_mem fun p hp t => ofPiece?_eq_some_iff (hps.piece p hp) (hread p hp)

theorem tokenize_eq_error_iff_offence : tokenize e = .error d ↔ FirstOffence ps d := by
  rw [tokenize_eq_error_iff, ← factored_iff.mp hps]
  constructor
  · rintro ⟨before, p, after, rfl, hbefore, hp, rfl⟩
    have hmem : p ∈ before ++ p :: after := by simp
    obtain ⟨hrun, hnone⟩ := (ofPiece?_eq_none_iff (hps.piece p hmem) (hread p hmem)).mp hp
    refine .intro (fun q hq => ?_) hrun hnone
    have hmem : q ∈ before ++ p :: after := List.mem_append_left _ hq
    obtain ⟨t, ht⟩ := hbefore q hq
    exact ⟨t, (ofPiece?_eq_some_iff (hps.piece q hmem) (hread q hmem)).mp ht⟩
  · rintro @⟨before, after, p, hbefore, hrun, hnone⟩
    have hmem : p ∈ before ++ p :: after := by simp
    refine ⟨before, p, after, rfl, fun q hq => ?_,
      (ofPiece?_eq_none_iff (hps.piece p hmem) (hread p hmem)).mpr ⟨hrun, hnone⟩, rfl⟩
    have hmem : q ∈ before ++ p :: after := List.mem_append_left _ hq
    obtain ⟨t, ht⟩ := hbefore q hq
    exact ⟨t, (ofPiece?_eq_some_iff (hps.piece q hmem) (hread q hmem)).mpr ht⟩

/-- An expression has tokens exactly if every run in it writes a number. -/
theorem exists_tokens_iff :
    (∃ ts, tokenize e = .ok ts) ↔
      ∀ p ∈ ps, (∀ c ∈ p, isSymbol c = false) → ∃ x, WritesNumber p x := by
  constructor
  · rintro ⟨ts, hts⟩ p hp hrun
    rw [factored_iff.mp hps] at hp
    obtain ⟨t, -, ht⟩ := exists_token_of_piece hts hp
    rw [← factored_iff.mp hps] at hp
    rw [ofPiece?_of_run hrun, Option.map_eq_some_iff] at ht
    obtain ⟨x, hx, -⟩ := ht
    exact ⟨x, (readFinite?_eq_some_iff_writes hrun (hread p hp)).mp hx⟩
  · intro hruns
    cases hresult : tokenize e with
    | ok ts => exact ⟨ts, rfl⟩
    | error d =>
        obtain ⟨-, hrun, hnone⟩ := (tokenize_eq_error_iff_offence hps hread).mp hresult
        exact absurd (hruns _ (by simp) hrun) hnone

end Expressions

/-- The tokenizer recognises exactly its language.  What is left of an expression without blanks factors
in one way into symbols and runs; it has tokens exactly if every run writes a number, and then they are
those of its pieces, one for each and in their order; the error is otherwise the first run that writes
none, with its place.  Only literals of more than `lengthLimit` characters have to be assumed to be read
as the nearest double, and blanks make no difference anywhere. -/
theorem tokenize_language (e : String) :
    (∃! ps, Factored (kept e) ps) ∧
    (∀ ps, Factored (kept e) ps → (∀ p ∈ ps, lengthLimit < p.length → ReadNearest p) →
      ((∃ ts, tokenize e = .ok ts) ↔
        ∀ p ∈ ps, (∀ c ∈ p, isSymbol c = false) → ∃ x, WritesNumber p x) ∧
      (∀ ts, tokenize e = .ok ts ↔ List.Forall₂ Writes ps ts) ∧
      ∀ d, tokenize e = .error d ↔ FirstOffence ps d) ∧
    ∀ e', kept e' = kept e → tokenize e' = tokenize e := by
  refine ⟨⟨_, factored_iff.mpr rfl, fun ps hps => factored_iff.mp hps⟩, fun ps hps hlong => ?_,
    fun e' => tokenize_congr⟩
  have hread : ∀ p ∈ ps, ReadNearest p := fun p hp =>
    (le_or_gt p.length lengthLimit).elim readNearest_of_length (hlong p hp)
  exact ⟨exists_tokens_iff hps hread, fun ts => tokenize_eq_ok_iff_writes hps hread,
    fun d => tokenize_eq_error_iff_offence hps hread⟩

/-- A numeral with a blank in it, a symbol, and a run that is no literal. -/
theorem tokenize_language_offence :
    Factored (kept "1 .5e2*x") ["1.5e2".toList, "*".toList, "x".toList] ∧
    (∀ p ∈ ["1.5e2".toList, "*".toList, "x".toList], lengthLimit < p.length → ReadNearest p) ∧
    kept "1.5e2 * x" = kept "1 .5e2*x" ∧
    FirstOffence ["1.5e2".toList, "*".toList, "x".toList] (.invalidToken "x" 2) ∧
    tokenize "1.5e2 * x" = .error (.invalidToken "x" 2) := by
  have hps : Factored (kept "1 .5e2*x") ["1.5e2".toList, "*".toList, "x".toList] :=
    factored_iff.mpr (by decide +kernel)
  have hread : ∀ p ∈ ["1.5e2".toList, "*".toList, "x".toList], lengthLimit < p.length → ReadNearest p :=
    fun p hp hlong => absurd hlong (not_lt.mpr (by revert p; decide))
  have hkept : kept "1.5e2 * x" = kept "1 .5e2*x" := by decide +kernel
  have herror : tokenize "1 .5e2*x" = .error (.invalidToken "x" 2) := by decide +kernel
  obtain ⟨-, hlanguage, hblank⟩ := tokenize_language "1 .5e2*x"
  exact ⟨hps, hread, hkept, ((hlanguage _ hps hread).2.2 _).mp herror, (hblank _ hkept).trans herror⟩

end ExprGateway
