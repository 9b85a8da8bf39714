import ExprGateway.Proofs.Expression.Conservation
import ExprGateway.Proofs.Expression.Language

/-!
# Printing tokens

The tokens of an expression can be printed and read again, whatever blanks are put between them
(`tokenize_printed`).  Three things make this work.  A number of an expression was read from a run, so
it is finite and has no sign (`writable_of_piece`), and the text of such a number is a run again: digits
and a point, never a sign or an exponent (`isPiece_text`).  No two numbers stand side by side, because
no two runs do.  So the texts of the tokens are the one way to cut what is printed, and each of them is
read as its token.
-/

namespace ExprGateway

open Binary64 Literal

/-! ## Numbers without a sign -/

section Numbers

variable {x : Float}

theorem isSymbol_of_isDigit {c : Char} (h : c.isDigit = true) : Token.isSymbol c = false := by
  rw [Bool.eq_false_iff]
  intro hsymbol
  have hmem := Token.isSymbol_iff.mp hsymbol
  simp only [List.mem_cons, List.not_mem_nil, or_false] at hmem
  rcases hmem with rfl | rfl | rfl | rfl | rfl | rfl <;> cases h

theorem plain_eq_write (hx : x.isFinite = true) (hsign : isNegative x = false) :
    Style.plain.chars x = (Decimal.shortest Style.plain.tie (rank x)).write Style.plain := by
  rw [Style.chars_of_isFinite _ hx, hsign, Bool.false_and, Style.withSign, if_neg Bool.false_ne_true]

/-- The plain text of a number without a sign has no symbols in it. -/
theorem isSymbol_of_mem_plain (hx : x.isFinite = true) (hsign : isNegative x = false) :
    ∀ c ∈ Style.plain.chars x, Token.isSymbol c = false := by
  intro c hc
  rw [plain_eq_write hx hsign] at hc
  rcases mem_positional _ rfl hc with hdigit | rfl | rfl
  · exact isSymbol_of_isDigit (isDigit_of_mem_digitChars hdigit)
  · rfl
  · rfl

theorem plain_ne_nil (hx : x.isFinite = true) (hsign : isNegative x = false) :
    Style.plain.chars x ≠ [] := by
  rw [plain_eq_write hx hsign]
  obtain ⟨c, cs, hcs, -⟩ := exists_digit_write Style.plain (Decimal.shortest Style.plain.tie (rank x))
  rw [hcs]
  exact List.cons_ne_nil c cs

end Numbers

namespace Token

/-! ## Texts of tokens -/

/-- A token whose number, if it is one, is finite and has no sign. -/
def Writable (t : Token) : Prop := ∀ x, t = number x → x.isFinite = true ∧ isNegative x = false

variable {t : Token} {p : List Char}

theorem ofSymbol?_ne_number {c : Char} {x : Float} : ofSymbol? c ≠ some (number x) := by
  intro h
  unfold ofSymbol? at h
  split at h
  · cases h
  · cases h
  · obtain ⟨o, -, ho⟩ := Option.map_eq_some_iff.mp h
    cases ho

/-- The number of a run is finite, and a run has no sign for it. -/
theorem writable_of_piece (hp : IsPiece p) (h : ofPiece? p = some t) : t.Writable := by
  rintro x rfl
  cases hp with
  | symbol hc =>
      rw [ofPiece?_of_isSymbol hc] at h
      exact absurd h ofSymbol?_ne_number
  | run hne hrun =>
      rw [ofPiece?_of_run hrun, Option.map_eq_some_iff] at h
      obtain ⟨y, hy, hxy⟩ := h
      cases hxy
      obtain ⟨q, d, -, hlt, rfl⟩ := readFinite?_eq_some_iff.mp hy
      rw [splitSign_of_run hrun]
      exact ⟨(isFinite_iff _).mpr (by rwa [rank_ofRank hlt.le]), isNegative_ofRank hlt.le⟩

theorem toList_text_number (x : Float) : (number x).text.toList = Style.plain.chars x :=
  String.toList_ofList

theorem toList_text_operator (o : Operator) : (operator o).text.toList = [o.symbol] := by
  cases o <;> rfl

/-- The text of a token is a piece. -/
theorem isPiece_text (ht : t.Writable) : IsPiece t.text.toList := by
  cases t with
  | number x =>
      obtain ⟨hx, hsign⟩ := ht x rfl
      rw [toList_text_number]
      exact .run (plain_ne_nil hx hsign) (isSymbol_of_mem_plain hx hsign)
  | operator o =>
      rw [toList_text_operator]
      exact .symbol (by cases o <;> rfl)
  | leftParen => exact .symbol rfl
  | rightParen => exact .symbol rfl

/-- The text of a token is read as this token. -/
theorem ofPiece?_text (ht : t.Writable) : ofPiece? t.text.toList = some t := by
  cases t with
  | number x =>
      obtain ⟨hx, hsign⟩ := ht x rfl
      rw [toList_text_number, ofPiece?_of_run (isSymbol_of_mem_plain hx hsign),
        readFinite?_of_read (readNumber?_plain x), if_pos hx, Option.map_some]
  | operator o =>
      rw [toList_text_operator, ofPiece?_of_isSymbol (by cases o <;> rfl), ofSymbol?_operator]
  | leftParen => rfl
  | rightParen => rfl

theorem isBlank_of_mem_text (ht : t.Writable) : ∀ c ∈ t.text.toList, isBlank c = false := by
  cases t with
  | number x =>
      obtain ⟨hx, -⟩ := ht x rfl
      intro c hc
      rw [toList_text_number] at hc
      exact isBlank_of_isNumeral (Numeral.chars Numeral.nil hx c hc)
  | operator o =>
      rw [toList_text_operator]
      exact List.forall_mem_singleton.mpr (Operator.isBlank_symbol o)
  | leftParen =>
      show ∀ c ∈ ['('], isBlank c = false
      exact List.forall_mem_singleton.mpr rfl
  | rightParen =>
      show ∀ c ∈ [')'], isBlank c = false
      exact List.forall_mem_singleton.mpr rfl

/-- Where no number is, there is a symbol. -/
theorem any_isSymbol_text (h : t.number? = none) : t.text.toList.any isSymbol = true := by
  cases t with
  | number x => cases h
  | operator o => cases o <;> rfl
  | leftParen => rfl
  | rightParen => rfl

/-! ## What is printed -/

/-- Only blanks. -/
def Blank (w : String) : Prop := ∀ c ∈ w.toList, isBlank c = true

theorem kept_of_blank {w : String} (h : Blank w) : kept w = [] :=
  List.filter_eq_nil_iff.mpr fun c hc => by simp [h c hc]

theorem kept_text (ht : t.Writable) : kept t.text = t.text.toList :=
  List.filter_eq_self.mpr fun c hc => by simp [isBlank_of_mem_text ht c hc]

/-- The texts of tokens in their order, with blanks in front of them, between them and behind them. -/
inductive Printed : List Token → String → Prop where
  | nil {w : String} : Blank w → Printed [] w
  | cons {w s : String} {t : Token} {ts : List Token} : Blank w → Printed ts s →
      Printed (t :: ts) (w ++ t.text ++ s)

/-- The texts one behind the other, without blanks. -/
theorem printed_join (ts : List Token) : Printed ts (String.join (ts.map text)) := by
  have hempty : Blank "" := fun c hc => nomatch hc
  induction ts with
  | nil => exact .nil hempty
  | cons t ts ih =>
      have h := Printed.cons (t := t) hempty ih
      rwa [String.empty_append, ← String.join_cons] at h

variable {ts : List Token} {s : String}

theorem Printed.kept_eq (h : Printed ts s) (hts : ∀ t ∈ ts, t.Writable) :
    kept s = (ts.map fun t => t.text.toList).flatten := by
  induction h with
  | nil hw => exact kept_of_blank hw
  | cons hw _ ih =>
      obtain ⟨ht, hts⟩ := List.forall_mem_cons.mp hts
      rw [kept_append, kept_append, kept_of_blank hw, kept_text ht, ih hts]
      rfl

/-- Of two tokens side by side one is no number. -/
def Apart (ts : List Token) : Prop := ts.IsChain fun t u => t.number? = none ∨ u.number? = none

/-- What is printed is cut into the texts of the tokens again. -/
theorem Printed.factored (h : Printed ts s) (hts : ∀ t ∈ ts, t.Writable) (hapart : Apart ts) :
    Factored (kept s) (ts.map fun t => t.text.toList) := by
  refine ⟨(h.kept_eq hts).symm, ?_, ?_⟩
  · intro p hp
    obtain ⟨t, ht, rfl⟩ := List.mem_map.mp hp
    exact isPiece_text (hts t ht)
  · exact List.isChain_map_of_isChain _ (fun t u h => h.imp any_isSymbol_text any_isSymbol_text) hapart

theorem Printed.tokenize_eq (h : Printed ts s) (hts : ∀ t ∈ ts, t.Writable) (hapart : Apart ts) :
    tokenize s = .ok ts := by
  rw [tokenize_eq_ok_iff, ← factored_iff.mp (h.factored hts hapart), List.forall₂_map_left_iff,
    List.forall₂_same]
  exact fun t ht => ofPiece?_text (hts t ht)

/-! ## The tokens of an expression -/

theorem writable_of_tokenize {e : String} (h : tokenize e = .ok ts) : ∀ t ∈ ts, t.Writable := by
  intro t ht
  obtain ⟨p, hp, hpt⟩ := exists_piece_of_token h ht
  exact writable_of_piece (isPiece_of_mem_pieces p hp) hpt

/-- What is written by a piece with a symbol in it is no number. -/
theorem number?_of_any_isSymbol (hp : IsPiece p) (h : ofPiece? p = some t)
    (hsymbol : p.any isSymbol = true) : t.number? = none := by
  cases hp with
  | symbol hc =>
      rw [ofPiece?_of_isSymbol hc] at h
      cases t with
      | number x => exact absurd h ofSymbol?_ne_number
      | operator => rfl
      | leftParen => rfl
      | rightParen => rfl
  | run hne hrun =>
      rw [any_isSymbol_of_run hrun] at hsymbol
      cases hsymbol

/-- What holds of neighbours on the one side of related lists holds of those on the other. -/
theorem isChain_of_forall₂ {α β : Type} {R : α → β → Prop} {S : α → α → Prop} {T : β → β → Prop}
    {xs : List α} {ys : List β} (h : List.Forall₂ R xs ys) (hS : xs.IsChain S)
    (hST : ∀ {x x' y y'}, S x x' → R x y → R x' y' → T y y') : ys.IsChain T := by
  induction h with
  | nil => exact .nil
  | cons hxy h ih =>
      cases h with
      | nil => exact .singleton _
      | cons hxy' h' =>
          obtain ⟨hx, hS⟩ := List.isChain_cons_cons.mp hS
          exact List.isChain_cons_cons.mpr ⟨hST hx hxy hxy', ih hS⟩

theorem apart_of_tokenize {e : String} (h : tokenize e = .ok ts) : Apart ts := by
  have hall := (List.forall₂_and_left _ _).mpr ⟨isPiece_of_mem_pieces, tokenize_eq_ok_iff.mp h⟩
  refine isChain_of_forall₂ hall (parted_pieces (kept e)) fun hor hp hq => ?_
  exact hor.imp (number?_of_any_isSymbol hp.1 hp.2) (number?_of_any_isSymbol hq.1 hq.2)

end Token

open Token

/-- Printing tokens and reading them again changes nothing.  The numbers of an expression are finite and
have no sign, no two of them stand side by side, and the texts of its tokens, whatever blanks are put
between them, are an expression with the same tokens, so they compile to the same. -/
theorem tokenize_printed {e : String} {ts : List Token} (h : tokenize e = .ok ts) :
    (∀ x ∈ Postfix.numbers ts, x.isFinite = true ∧ isNegative x = false) ∧
    (ts.IsChain fun t u => t.number? = none ∨ u.number? = none) ∧
    Printed ts (String.join (ts.map text)) ∧
    ∀ s, Printed ts s → tokenize s = .ok ts ∧ compile s = compile e := by
  have hts := writable_of_tokenize h
  refine ⟨fun x hx => hts _ (Postfix.mem_numbers.mp hx) x rfl, apart_of_tokenize h, printed_join ts,
    fun s hs => ?_⟩
  have htokens := hs.tokenize_eq hts (apart_of_tokenize h)
  exact ⟨htokens, by rw [compile, compile, htokens, h]⟩

/-- An exponent is not printed, so its zeros are. -/
theorem tokenize_printed_zeros :
    tokenize "1.5E2 0*(.5)" =
      .ok [.number 1.5e20, .operator .multiply, .leftParen, .number 0.5, .rightParen] ∧
    tokenize "150000000000000000000*(0.5)" = tokenize "1.5E2 0*(.5)" := by
  have h : tokenize "1.5E2 0*(.5)" =
      .ok [.number 1.5e20, .operator .multiply, .leftParen, .number 0.5, .rightParen] := by
    decide +kernel
  obtain ⟨-, -, hjoin, hprinted⟩ := tokenize_printed h
  have htext : String.join (List.map text
      [.number 1.5e20, .operator .multiply, .leftParen, .number 0.5, .rightParen]) =
      "150000000000000000000*(0.5)" := by decide +kernel
  rw [htext] at hjoin
  exact ⟨h, (hprinted _ hjoin).1.trans h.symm⟩

end ExprGateway
