import ExprGateway.Proofs.Expression.Entrance
import ExprGateway.Proofs.Number.ReadBack

/-!
# The alphabet of expressions

Numbers and symbols are written in ASCII, the names of the numbers that are no decimals included
(`isAscii_of_readNumber?`).  Cutting loses no character (`Token.flatten_pieces`), so any other character that
is not blank stands in a piece that is no token: an expression with one in it is refused for a piece
(`tokenize_of_foreign`), wherever the character stands and whatever stands around it.
-/

namespace ExprGateway

/-- A character of the first 128. -/
def IsAscii (c : Char) : Prop := c.toNat < 128

instance (c : Char) : Decidable (IsAscii c) := inferInstanceAs (Decidable (c.toNat < 128))

/-! ## Characters of numbers -/

namespace Literal

theorem isAscii_of_isDigit {c : Char} (h : c.isDigit = true) : IsAscii c := by
  have := toNat_of_isDigit h
  exact Nat.lt_of_le_of_lt this.2 (by decide)

/-- A character that is not in front of the mark of a split is the mark or stands behind it. -/
theorem mem_of_span {p : Char → Bool} {cs front back : List Char} {c : Char}
    (h : cs.span p = (front, back)) (hc : c ∈ cs) : c ∈ front ∨ p c = false ∨ c ∈ back.drop 1 := by
  rw [List.span_eq_takeWhile_dropWhile, Prod.mk.injEq] at h
  obtain ⟨rfl, hback⟩ := h
  rw [← List.takeWhile_append_dropWhile (p := p) (l := cs), hback] at hc
  rcases List.mem_append.mp hc with hc | hc
  · exact .inl hc
  · cases back with
    | nil => cases hc
    | cons mark rest =>
        rcases List.mem_cons.mp hc with rfl | hc
        · exact .inr (.inl (by simpa [hback] using List.head?_dropWhile_not p cs))
        · exact .inr (.inr hc)

theorem isAscii_of_mantissa? {cs : List Char} {m : Decimal} (h : mantissa? cs = some m) :
    ∀ c ∈ cs, IsAscii c := by
  intro c hc
  rw [mantissa?] at h
  rcases hspan : cs.span (· != '.') with ⟨whole, rest⟩
  rw [hspan] at h
  dsimp only at h
  split at h
  next hdigits =>
    simp only [Bool.and_eq_true, List.all_eq_true] at hdigits
    rcases mem_of_span hspan hc with hc | hmark | hc
    · exact isAscii_of_isDigit (hdigits.1 c (List.mem_append_left _ hc))
    · obtain rfl : c = '.' := by simpa using hmark
      decide
    · exact isAscii_of_isDigit (hdigits.1 c (List.mem_append_right _ hc))
  next => cases h

theorem isAscii_of_splitSign {cs : List Char} (h : ∀ c ∈ (splitSign cs).2, IsAscii c) :
    ∀ c ∈ cs, IsAscii c := by
  unfold splitSign at h
  split at h
  · exact List.forall_mem_cons.mpr ⟨by decide, h⟩
  · exact List.forall_mem_cons.mpr ⟨by decide, h⟩
  · exact h

/-- An exponent is ASCII behind its mark. -/
theorem isAscii_of_exponent? {cs : List Char} {e : Int} (h : exponent? cs = some e) :
    ∀ c ∈ cs.drop 1, IsAscii c := by
  cases cs with
  | nil => exact fun c hc => nomatch hc
  | cons mark cs =>
      show ∀ c ∈ cs, IsAscii c
      refine isAscii_of_splitSign fun c hc => ?_
      unfold exponent? at h
      dsimp only at h
      split at h
      next hdigits =>
        simp only [Bool.and_eq_true, List.all_eq_true] at hdigits
        exact isAscii_of_isDigit (hdigits.1 c hc)
      next => cases h

theorem isAscii_of_decimal? {cs : List Char} {d : Decimal} (h : decimal? cs = some d) :
    ∀ c ∈ cs, IsAscii c := by
  intro c hc
  rw [decimal?] at h
  rcases hspan : cs.span (fun c => c != 'e' && c != 'E') with ⟨front, back⟩
  rw [hspan] at h
  obtain ⟨m, hm, h⟩ := Option.bind_eq_some_iff.mp h
  obtain ⟨e, he, -⟩ := Option.bind_eq_some_iff.mp h
  rcases mem_of_span hspan hc with hc | hmark | hc
  · exact isAscii_of_mantissa? hm c hc
  · have hmark : c = 'e' ∨ c = 'E' := by
      rw [Bool.and_eq_false_iff] at hmark
      simpa using hmark
    rcases hmark with rfl | rfl <;> decide
  · exact isAscii_of_exponent? he c hc

/-- A character that is no ASCII is no letter of which there is a small one. -/
theorem isAscii_of_toLower {c : Char} (h : IsAscii c.toLower) : IsAscii c := by
  by_cases hupper : c.isUpper
  · rw [Char.isUpper] at hupper
    simp only [decide_eq_true_eq, ge_iff_le, UInt32.le_iff_toNat_le] at hupper
    exact Nat.lt_of_le_of_lt hupper.2 (by decide)
  · rwa [Char.toLower_eq_of_not_isUpper hupper] at h

theorem isAscii_of_named? {cs : List Char} {x : Float} (h : named? cs = some x) :
    ∀ c ∈ cs, IsAscii c := by
  have hname : ∀ {name : String}, String.ofList (cs.map Char.toLower) = name →
      (∀ d ∈ name.toList, IsAscii d) → ∀ c ∈ cs, IsAscii c := by
    rintro _ rfl hascii c hc
    refine isAscii_of_toLower (hascii _ ?_)
    rw [String.toList_ofList]
    exact List.mem_map_of_mem hc
  unfold named? at h
  split at h
  next hinf => exact hname hinf (by simp [IsAscii])
  next hinfinity => exact hname hinfinity (by simp [IsAscii])
  next hnan => exact hname hnan (by simp [IsAscii])
  next => cases h

end Literal

open Literal in
/-- A number is written in ASCII. -/
theorem isAscii_of_readNumber? {cs : List Char} {x : Float} (h : readNumber? cs = some x) :
    ∀ c ∈ cs, IsAscii c := by
  refine isAscii_of_splitSign fun c hc => ?_
  unfold readNumber? at h
  dsimp only at h
  split at h
  next d hd => exact isAscii_of_decimal? hd c hc
  next =>
    obtain ⟨y, hy, -⟩ := Option.map_eq_some_iff.mp h
    exact isAscii_of_named? hy c hc

/-! ## Characters of tokens -/

namespace Token

theorem isAscii_of_ofSymbol? {c : Char} {t : Token} (h : ofSymbol? c = some t) : IsAscii c := by
  unfold ofSymbol? at h
  split at h
  · decide
  · decide
  · obtain ⟨o, ho, -⟩ := Option.map_eq_some_iff.mp h
    unfold Operator.ofSymbol? at ho
    split at ho <;> first | decide | cases ho

/-- A token is written in ASCII. -/
theorem isAscii_of_ofPiece? {p : List Char} {t : Token} (h : ofPiece? p = some t) :
    ∀ c ∈ p, IsAscii c := by
  rcases ofPiece?_cases h with ⟨c, rfl, hs⟩ | ⟨x, hx, -⟩
  · exact List.forall_mem_singleton.mpr (isAscii_of_ofSymbol? hs)
  · exact isAscii_of_readNumber? (Option.filter_eq_some_iff.mp hx).1

end Token

/-- The characters of an expression that has tokens are ASCII or blank. -/
theorem isAscii_of_tokenize {expression : String} {ts : List Token} (h : tokenize expression = .ok ts) :
    ∀ c ∈ expression.toList, isBlank c = false → IsAscii c := by
  intro c hc hblank
  have hkept : c ∈ (Token.pieces (Token.kept expression)).flatten := by
    rw [Token.flatten_pieces]
    exact Token.mem_kept.mpr ⟨hc, hblank⟩
  obtain ⟨p, hp, hcp⟩ := List.mem_flatten.mp hkept
  obtain ⟨t, -, ht⟩ := exists_token_of_piece h hp
  exact Token.isAscii_of_ofPiece? ht c hcp

/-- An expression with a character in it that is neither blank nor ASCII is refused for a piece. -/
theorem tokenize_of_foreign {expression : String} {c : Char} (hc : c ∈ expression.toList)
    (hblank : isBlank c = false) (hforeign : ¬ IsAscii c) :
    ∃ piece index, tokenize expression = .error (.invalidToken piece index) := by
  cases h : tokenize expression with
  | ok ts => exact absurd (isAscii_of_tokenize h c hc hblank) hforeign
  | error defect =>
      obtain ⟨piece, index, rfl, -⟩ := piece_of_tokenize h
      exact ⟨piece, index, rfl⟩

end ExprGateway
