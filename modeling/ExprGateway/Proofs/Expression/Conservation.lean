import ExprGateway.Proofs.Evaluation.Course
import ExprGateway.Proofs.Expression.Pieces

/-!
# Conversion keeps what it is given

Tokens move between the input, the waiting operators and the output in three places, and what is misplaced in
the input moves like the rest.  What comes of all this is an arrangement, so conservation is an induction over
`Arranged`: numbers stay in their order, and an operator only changes its place with its right side
(`Arranged.keeps`).

Before the conversion stands the text, behind it the evaluation.  A symbol of a text is always a piece by
itself, so the operators among the tokens are the operator symbols of the text, in their order
(`operators_of_tokenize`); and an evaluation that succeeds makes one operation for each operator of the
sequence.  `conversion_conserves` puts the three together.
-/

namespace ExprGateway

/-- The number of a token, if it is one. -/
def Token.number? : Token → Option Float
  | .number value => some value
  | _ => none

namespace Postfix

/-- The numbers of a sequence. -/
def numbers (p : Postfix) : List Float := p.filterMap Token.number?

section Parts

variable (t : Token) (ts us : List Token)

@[simp] theorem numbers_nil : numbers [] = [] := rfl

@[simp] theorem numbers_cons : numbers (t :: ts) = t.number?.toList ++ numbers ts := by
  cases t <;> rfl

@[simp] theorem numbers_append : numbers (ts ++ us) = numbers ts ++ numbers us :=
  List.filterMap_append

@[simp] theorem operators_nil : operators [] = [] := rfl

@[simp] theorem operators_cons : operators (t :: ts) = t.operator?.toList ++ operators ts := by
  cases t <;> rfl

@[simp] theorem operators_append : operators (ts ++ us) = operators ts ++ operators us :=
  List.filterMap_append

end Parts

theorem mem_numbers {x : Float} {ts : List Token} : x ∈ numbers ts ↔ .number x ∈ ts := by
  rw [numbers, List.mem_filterMap]
  constructor
  · rintro ⟨t, ht, hx⟩
    cases t with
    | number value =>
        obtain rfl := Option.some.inj hx
        exact ht
    | operator => cases hx
    | leftParen => cases hx
    | rightParen => cases hx
  · intro h
    exact ⟨_, h, rfl⟩

/-- What a sequence keeps of the tokens that it was made of. -/
structure Keeps (p : Postfix) (ts : List Token) : Prop where
  /-- Parentheses have done their work. -/
  flat : .leftParen ∉ p ∧ .rightParen ∉ p
  /-- The same numbers in the same order. -/
  numbers : p.numbers = numbers ts
  /-- The same operators, each as often. -/
  operators : p.operators.Perm (operators ts)

end Postfix

open Postfix

theorem Arranged.keeps {n : Category} {ts : List Token} {p : Postfix} (h : Arranged n ts p) :
    p.Keeps ts := by
  induction h with
  | none => exact ⟨by simp, rfl, .refl _⟩
  | number value _ ih =>
      refine ⟨by simp [ih.flat], ?_, ?_⟩
      · rw [numbers_append, numbers_append, ih.numbers]
      · simpa [Token.operator?] using ih.operators
  | group _ _ ih₁ ih₂ =>
      refine ⟨by simp [ih₁.flat, ih₂.flat], ?_, ?_⟩
      · simp [Token.number?, ih₁.numbers, ih₂.numbers]
      · simpa [Token.operator?] using ih₁.operators.append ih₂.operators
  | lift _ _ ih => exact ih
  | @binary _ ts us p q o _ _ _ ih₁ ih₂ =>
      refine ⟨by simp [ih₁.flat, ih₂.flat], ?_, ?_⟩
      · simp [Token.number?, ih₁.numbers, ih₂.numbers]
      · -- the operator goes behind its right side
        have hright : (q.operators ++ [o]).Perm (o :: operators us) :=
          (ih₂.operators.append_right [o]).trans (List.perm_append_singleton o _)
        simpa [Token.operator?] using ih₁.operators.append hright

/-! ## The operators of a text -/

namespace Operator

theorem ofSymbol?_eq_some_iff {c : Char} {o : Operator} : ofSymbol? c = some o ↔ c = o.symbol := by
  constructor
  · intro h
    unfold ofSymbol? at h
    split at h <;> cases h <;> rfl
  · rintro rfl
    exact ofSymbol?_symbol o

theorem isBlank_symbol (o : Operator) : isBlank o.symbol = false := by
  cases o <;> rfl

theorem isSome_ofSymbol? (c : Char) :
    (ofSymbol? c).isSome = decide (c ∈ ['+', '-', '*', '/']) := by
  unfold ofSymbol?
  split <;> simp_all

/-- The symbols of the operators of a text are its operator symbols. -/
theorem map_symbol_filterMap (cs : List Char) :
    (cs.filterMap ofSymbol?).map symbol = cs.filter (· ∈ ['+', '-', '*', '/']) := by
  induction cs with
  | nil => rfl
  | cons c cs ih =>
      have hmem := isSome_ofSymbol? c
      cases hc : ofSymbol? c with
      | none =>
          rw [hc] at hmem
          rw [List.filterMap_cons_none hc, List.filter_cons, ← hmem]
          exact ih
      | some o =>
          rw [hc] at hmem
          rw [List.filterMap_cons_some hc, List.filter_cons, ← hmem, List.map_cons, ih,
            ofSymbol?_eq_some_iff.mp hc]
          rfl

end Operator

namespace Token

theorem operator?_of_ofSymbol? {c : Char} {t : Token} (h : ofSymbol? c = some t) :
    t.operator? = Operator.ofSymbol? c := by
  unfold ofSymbol? at h
  split at h
  · cases h
    rfl
  · cases h
    rfl
  · obtain ⟨o, ho, rfl⟩ := Option.map_eq_some_iff.mp h
    exact ho.symm

theorem isSymbol_of_operator {c : Char} {o : Operator} (h : Operator.ofSymbol? c = some o) :
    isSymbol c = true := by
  unfold isSymbol ofSymbol?
  split
  · rfl
  · rfl
  · rw [h]
    rfl

/-- An operator stands in a piece only if the piece writes it. -/
theorem filterMap_of_ofPiece? {p : List Char} {t : Token} (hp : IsPiece p)
    (h : ofPiece? p = some t) : p.filterMap Operator.ofSymbol? = t.operator?.toList := by
  cases hp with
  | @symbol c hc =>
      rw [ofPiece?_of_isSymbol hc] at h
      rw [operator?_of_ofSymbol? h]
      cases ho : Operator.ofSymbol? c with
      | none => rw [List.filterMap_cons_none ho]; rfl
      | some o => rw [List.filterMap_cons_some ho]; rfl
  | run _ hrun =>
      rw [ofPiece?_of_run hrun] at h
      obtain ⟨x, -, rfl⟩ := Option.map_eq_some_iff.mp h
      refine List.filterMap_eq_nil_iff.mpr fun c hc => Option.eq_none_iff_forall_ne_some.mpr fun o ho => ?_
      have hsymbol := isSymbol_of_operator ho
      rw [hrun c hc] at hsymbol
      cases hsymbol

end Token

theorem operators_of_pieces {ps : List (List Char)} {ts : List Token}
    (h : List.Forall₂ (fun p t => Token.ofPiece? p = some t) ps ts) :
    (∀ p ∈ ps, Token.IsPiece p) → operators ts = ps.flatten.filterMap Operator.ofSymbol? := by
  induction h with
  | nil => exact fun _ => rfl
  | @cons p t ps ts ht _ ih =>
      intro hps
      obtain ⟨hp, hps⟩ := List.forall_mem_cons.mp hps
      rw [List.flatten_cons, List.filterMap_append, ← ih hps, Token.filterMap_of_ofPiece? hp ht,
        operators_cons]

/-- The operators among the tokens of a text are those of its symbols. -/
theorem operators_of_tokenize {expression : String} {ts : List Token}
    (h : tokenize expression = .ok ts) :
    operators ts = expression.toList.filterMap Operator.ofSymbol? := by
  rw [operators_of_pieces (tokenize_eq_ok_iff.mp h) Token.isPiece_of_mem_pieces, Token.flatten_pieces,
    Token.kept, List.filterMap_filter]
  -- no operator is blank, so nothing was dropped that counts
  refine List.filterMap_congr fun c _ => ?_
  cases hc : Operator.ofSymbol? c with
  | none => simp
  | some o =>
      rw [Operator.ofSymbol?_eq_some_iff.mp hc, o.isBlank_symbol]
      rfl

/-! ## From the text to the operations -/

/-- An evaluation that succeeds makes one operation for each operator symbol of the text. -/
theorem symbols_of_evaluate {σ κ : Type} (s : Service σ κ) {expression : String} {b : Backends σ κ}
    {e : Evaluation} (h : (s.evaluate expression b).1.answer = .ok e) :
    (e.operations.map (·.operator.symbol)).Perm
      (expression.toList.filter (· ∈ ['+', '-', '*', '/'])) := by
  obtain ⟨p, hp, hmade⟩ := s.exists_compiled_of_answer h
  obtain ⟨ts, ht, hconv⟩ := compile_eq_ok_iff.mp hp
  have hoperators := (ofInfix_eq_ok_iff.mp hconv).1.keeps.operators
  rw [operators_of_tokenize ht] at hoperators
  have hsymbols := hoperators.map Operator.symbol
  rwa [← hmade, List.map_map, Operator.map_symbol_filterMap] at hsymbols

/-- Conversion drops the parentheses, keeps the numbers in their order and the operators up to their order;
so an evaluation that succeeds makes as many operations as there are operator symbols in the text, and those
that they stand for. -/
theorem conversion_conserves :
    (∀ {ts : List Token} {p : Postfix}, ofInfix ts = .ok p → p.Keeps ts) ∧
    ∀ {σ κ : Type} (s : Service σ κ) (expression : String) (b : Backends σ κ) (e : Evaluation),
      (s.evaluate expression b).1.answer = .ok e →
      e.operations.length = expression.toList.countP (· ∈ ['+', '-', '*', '/']) ∧
      (e.operations.map (·.operator.symbol)).Perm
        (expression.toList.filter (· ∈ ['+', '-', '*', '/'])) := by
  refine ⟨fun h => (ofInfix_eq_ok_iff.mp h).1.keeps, fun s expression b e h => ?_⟩
  have hsymbols := symbols_of_evaluate s h
  refine ⟨?_, hsymbols⟩
  rw [List.countP_eq_length_filter, ← hsymbols.length_eq, List.length_map]

/-- Operators out of place, and an evaluation with one of each precedence: the operators of the text are
`-` and `*`, those of the operations `*` and `-`. -/
theorem conversion_conserves_difference :
    let row : List Token := [.leftParen, .number 1, .rightParen, .leftParen, .number 2, .rightParen,
      .operator .add]
    let s : Service Unit Unit := ⟨⟨fun _ _ _ t => (⟨.ok 1, 0⟩, t)⟩, none⟩
    let e : Evaluation := .of 1 [⟨.multiply, 2, 3, 1, 0⟩, ⟨.subtract, 9, 1, 1, 0⟩]
    ofInfix row = .ok [.number 1, .number 2, .operator .add] ∧
    Keeps [.number 1, .number 2, .operator .add] row ∧
    (s.evaluate "9 - (2 * 3)" ⟨(), (), []⟩).1.answer = .ok e ∧
    (e.operations.map (·.operator.symbol)).Perm ['-', '*'] := by
  intro row s e
  have hrow : ofInfix row = .ok [.number 1, .number 2, .operator .add] := rfl
  have hanswer : (s.evaluate "9 - (2 * 3)" ⟨(), (), []⟩).1.answer = .ok e :=
    eq_ok_of_toOption (by decide +kernel)
  exact ⟨hrow, conversion_conserves.1 hrow, hanswer, (conversion_conserves.2 s _ _ e hanswer).2⟩

end ExprGateway
