import ExprGateway.Proofs.Evaluation.Trace
import ExprGateway.Proofs.Expression.Arrangement
import ExprGateway.Proofs.Expression.Pieces

/-!
# Which expressions are accepted, and as what

Every infix expression is accepted, as the postfix order of its tree (`ofInfix_of_phrase`).

More is accepted than that: the check counts values in the finished sequence, so what stands out of
place in the tokens may still come out even.  `(1)(2)+` is such a list.  `Leaves n d ts e` is the
grammar of what is accepted, as phrases that find `d` values and leave `e`; `ofInfix_accepts_iff` says
that it is exact, and that among the accepted lists the sentences are those in which no operand stands
directly behind another.  Nothing that is not accepted has any effect.

The step from counting to the grammar of infix expressions is `Leaves.le_succ`: without operands side
by side no phrase adds more than one value, and one that adds one has an operand wherever it needs one.
-/

namespace ExprGateway

open Postfix

/-! ## Infix expressions -/

/-- A derivation of tokens as an infix expression gives what conversion makes of them, and what every
text compiles to that reads as these tokens. -/
theorem ofInfix_of_phrase {ts : List Token} {t : Tree} (h : Phrase .sum ts t) :
    ofInfix ts = .ok t.postorder ∧
    ∀ expression : String, tokenize expression = .ok ts → compile expression = .ok t.postorder := by
  have hconv : ofInfix ts = .ok t.postorder :=
    ofInfix_eq_ok_iff.mpr ⟨h.arranged, check_postorder t⟩
  exact ⟨hconv, fun expression ht => compile_eq_ok_iff.mpr ⟨ts, ht, hconv⟩⟩

/-- Groups, one of them without need, and precedences of both kinds. -/
theorem ofInfix_of_difference_of_group :
    Phrase .sum [.number 8, .operator .subtract, .leftParen, .leftParen, .number 3, .rightParen,
        .operator .subtract, .number 2, .rightParen, .operator .multiply, .number 4]
      (.node .subtract (.leaf 8) (.node .multiply (.node .subtract (.leaf 3) (.leaf 2)) (.leaf 4))) ∧
    compile "8 - ((3) - 2) * 4" = .ok [.number 8, .number 3, .number 2, .operator .subtract, .number 4,
      .operator .multiply, .operator .subtract] := by
  have hgroup : Phrase .operand [.leftParen, .number 3, .rightParen] (.leaf 3) :=
    .group (.ofProduct (.ofOperand (.number 3)))
  have hinner : Phrase .operand [.leftParen, .leftParen, .number 3, .rightParen, .operator .subtract,
      .number 2, .rightParen] (.node .subtract (.leaf 3) (.leaf 2)) :=
    .group (.sum (.inr rfl) (.ofProduct (.ofOperand hgroup)) (.ofOperand (.number 2)))
  have h : Phrase .sum [.number 8, .operator .subtract, .leftParen, .leftParen, .number 3, .rightParen,
      .operator .subtract, .number 2, .rightParen, .operator .multiply, .number 4]
      (.node .subtract (.leaf 8) (.node .multiply (.node .subtract (.leaf 3) (.leaf 2)) (.leaf 4))) :=
    .sum (.inr rfl) (.ofProduct (.ofOperand (.number 8)))
      (.product (.inl rfl) (.ofOperand hinner) (.number 4))
  exact ⟨h, (ofInfix_of_phrase h).2 "8 - ((3) - 2) * 4" (eq_ok_of_toOption (by decide +kernel))⟩

/-! ## The grammar of what is accepted -/

/-- Rows of numbers and groups, joined by operators: the category, how many values there are before
the tokens, the tokens, and how many values there are behind them.  A number adds one; an operator,
counted behind its right side, needs two and makes one of them. -/
inductive Leaves : Category → Nat → List Token → Nat → Prop where
  | none {d : Nat} : Leaves .operand d [] d
  | number {d e : Nat} {ts : List Token} (value : Float) :
      Leaves .operand d ts e → Leaves .operand d (ts ++ [.number value]) (e + 1)
  | group {d e f : Nat} {ts us : List Token} :
      Leaves .operand d ts e → Leaves .sum e us f →
      Leaves .operand d (ts ++ (.leftParen :: us ++ [.rightParen])) f
  | lift {n : Category} {d e : Nat} {ts : List Token} :
      n ≠ .operand → Leaves n.tighter d ts e → Leaves n d ts e
  | binary {n : Category} {d e f : Nat} {ts us : List Token} {o : Operator} :
      o.category = n → Leaves n d ts e → Leaves n.tighter e us (f + 2) →
      Leaves n d (ts ++ .operator o :: us) (f + 1)

theorem Leaves.exists_arranged {n : Category} {d e : Nat} {ts : List Token} (h : Leaves n d ts e) :
    ∃ p, Arranged n ts p ∧ p.foldlM depthAfter d = .ok e := by
  induction h with
  | none => exact ⟨[], .none, rfl⟩
  | number value _ ih =>
      obtain ⟨p, ha, hd⟩ := ih
      exact ⟨_, .number value ha, foldlM_append_of_ok hd⟩
  | group _ _ ih₁ ih₂ =>
      obtain ⟨p, ha, hd⟩ := ih₁
      obtain ⟨q, ha₂, hd₂⟩ := ih₂
      exact ⟨_, .group ha ha₂, (foldlM_append_of_ok hd).trans hd₂⟩
  | lift hn _ ih =>
      obtain ⟨p, ha, hd⟩ := ih
      exact ⟨p, .lift hn ha, hd⟩
  | @binary _ _ _ f _ _ _ ho _ _ ih₁ ih₂ =>
      obtain ⟨p, ha, hd⟩ := ih₁
      obtain ⟨q, ha₂, hd₂⟩ := ih₂
      refine ⟨_, .binary ho ha ha₂, ?_⟩
      rw [List.append_assoc, foldlM_append_of_ok hd, foldlM_append_of_ok hd₂]
      exact foldlM_operator_eq_ok_iff.mpr ⟨f, rfl, rfl⟩

theorem Arranged.leaves {n : Category} {ts : List Token} {p : Postfix} (h : Arranged n ts p) :
    ∀ {d e : Nat}, p.foldlM depthAfter d = .ok e → Leaves n d ts e := by
  induction h with
  | none =>
      intro d e hd
      obtain rfl := Except.ok.inj hd
      exact .none
  | number value _ ih =>
      intro d e hd
      obtain ⟨between, h₁, h₂⟩ := exists_of_foldlM_append hd
      obtain rfl := Except.ok.inj h₂
      exact .number value (ih h₁)
  | group _ _ ih₁ ih₂ =>
      intro d e hd
      obtain ⟨between, h₁, h₂⟩ := exists_of_foldlM_append hd
      exact .group (ih₁ h₁) (ih₂ h₂)
  | lift hn _ ih => exact fun hd => .lift hn (ih hd)
  | binary ho _ _ ih₁ ih₂ =>
      intro d e hd
      obtain ⟨before, h, h₃⟩ := exists_of_foldlM_append hd
      obtain ⟨between, h₁, h₂⟩ := exists_of_foldlM_append h
      obtain ⟨f, rfl, rfl⟩ := foldlM_operator_eq_ok_iff.mp h₃
      exact .binary ho (ih₁ h₁) (ih₂ h₂)

theorem accepted_iff_leaves {ts : List Token} :
    (∃ p, ofInfix ts = .ok p) ↔ Leaves .sum 0 ts 1 := by
  constructor
  · rintro ⟨p, h⟩
    obtain ⟨ha, hc⟩ := ofInfix_eq_ok_iff.mp h
    exact ha.leaves (check_eq_ok_iff.mp hc)
  · intro h
    obtain ⟨p, ha, hd⟩ := h.exists_arranged
    exact ⟨p, ofInfix_eq_ok_iff.mpr ⟨ha, check_eq_ok_iff.mpr hd⟩⟩

/-! ## Sentences among the accepted lists -/

/-- A row is empty, or it ends as an operand does. -/
theorem Leaves.row {d e : Nat} {ts : List Token} (h : Leaves .operand d ts e) :
    (ts = [] ∧ e = d) ∨ ∃ us t, ts = us ++ [t] ∧ t.endsOperand = true := by
  cases h with
  | none => exact .inl ⟨rfl, rfl⟩
  | number value _ => exact .inr ⟨_, _, rfl, rfl⟩
  | @group _ _ _ ts us _ _ => exact .inr ⟨ts ++ .leftParen :: us, .rightParen, by simp, rfl⟩
  | lift hn _ => exact absurd rfl hn
  | @binary _ _ _ _ _ _ o ho _ _ => exact absurd ho o.category_ne_operand

/-- Where no operands stand side by side, a row before another operand is empty. -/
theorem Leaves.row_eq_nil {d e : Nat} {ts us : List Token} {t : Token}
    (h : Leaves .operand d ts e) (ht : t.startsOperand = true) (ha : Apart (ts ++ t :: us)) :
    ts = [] ∧ e = d := by
  rcases h.row with hnil | ⟨ts, t', rfl, ht'⟩
  · exact hnil
  · rw [List.append_assoc] at ha
    have hrel := (List.isChain_append_cons_cons.mp ha).2.1
    simp [ht, ht'] at hrel

/-- Without operands side by side a phrase adds at most one value, and if it adds one it is a phrase of
the grammar of infix expressions. -/
theorem Leaves.le_succ {n : Category} {d e : Nat} {ts : List Token} (h : Leaves n d ts e) :
    Apart ts → e ≤ d + 1 ∧ (e = d + 1 → ∃ t, Phrase n ts t) := by
  induction h with
  | none => exact fun _ => ⟨by omega, fun h => by omega⟩
  | number value h _ =>
      intro ha
      obtain ⟨rfl, rfl⟩ := h.row_eq_nil rfl ha
      exact ⟨le_rfl, fun _ => ⟨_, .number value⟩⟩
  | group h _ _ ih =>
      intro ha
      obtain ⟨rfl, rfl⟩ := h.row_eq_nil rfl ha
      obtain ⟨hle, hphrase⟩ := ih (apart_group.mp ha)
      refine ⟨hle, fun he => ?_⟩
      obtain ⟨t, ht⟩ := hphrase he
      exact ⟨t, .group ht⟩
  | @lift n _ _ _ hn _ ih =>
      intro ha
      obtain ⟨hle, hphrase⟩ := ih ha
      refine ⟨hle, fun he => ?_⟩
      obtain ⟨t, ht⟩ := hphrase he
      cases n with
      | sum => exact ⟨t, .ofProduct ht⟩
      | product => exact ⟨t, .ofOperand ht⟩
      | operand => exact absurd rfl hn
  | @binary n d e f ts us o ho _ _ ih₁ ih₂ =>
      intro ha
      obtain ⟨hts, hus⟩ := apart_binary.mp ha
      obtain ⟨hle₁, hphrase₁⟩ := ih₁ hts
      obtain ⟨hle₂, hphrase₂⟩ := ih₂ hus
      refine ⟨by omega, fun he => ?_⟩
      -- the sum can only be reached if both sides add one
      obtain ⟨l, hl⟩ := hphrase₁ (by omega)
      obtain ⟨r, hr⟩ := hphrase₂ (by omega)
      subst ho
      cases o with
      | add => exact ⟨_, .sum (.inl rfl) hl hr⟩
      | subtract => exact ⟨_, .sum (.inr rfl) hl hr⟩
      | multiply => exact ⟨_, .product (.inl rfl) hl hr⟩
      | divide => exact ⟨_, .product (.inr rfl) hl hr⟩

theorem sentence_iff_accepted {ts : List Token} :
    Sentence ts ↔ (∃ p, ofInfix ts = .ok p) ∧ Apart ts := by
  constructor
  · intro h
    obtain ⟨t, ht⟩ := sentence_iff_phrase.mp h
    exact ⟨⟨_, ofInfix_eq_ok_iff.mpr ⟨ht.arranged, check_postorder t⟩⟩, h.apart⟩
  · rintro ⟨haccepted, ha⟩
    have h := accepted_iff_leaves.mp haccepted
    exact sentence_iff_phrase.mpr ((h.le_succ ha).2 rfl)

/-! ## Acceptance -/

/-- An expression that is not accepted makes no call and no report: the records stay empty. -/
theorem evaluate_of_not_leaves {σ κ : Type} (s : Service σ κ) (expression : String)
    (b : Backends σ κ)
    (h : ∀ ts, tokenize expression = .ok ts → ¬ Leaves .sum 0 ts 1) :
    ∃ defect events,
      s.evaluate expression b = (⟨.error (.malformed defect), events⟩, b) ∧
      s.traced.evaluate expression b.traced = (⟨.error (.malformed defect), events⟩, b.traced) := by
  cases hc : compile expression with
  | error defect =>
      exact ⟨defect, _, s.evaluate_of_malformed hc, s.traced.evaluate_of_malformed hc⟩
  | ok p =>
      exfalso
      obtain ⟨ts, ht, hconv⟩ := compile_eq_ok_iff.mp hc
      exact h ts ht (accepted_iff_leaves.mp ⟨p, hconv⟩)

/-- Conversion accepts exactly the phrases that find nothing and leave one value.  Those in which no
operand stands directly behind another are exactly the sentences.  An expression whose tokens are not
accepted is malformed, and without effect. -/
theorem ofInfix_accepts_iff :
    (∀ ts : List Token, (∃ p, ofInfix ts = .ok p) ↔ Leaves .sum 0 ts 1) ∧
    (∀ ts : List Token, Sentence ts ↔ (∃ p, ofInfix ts = .ok p) ∧ Apart ts) ∧
    ∀ {σ κ : Type} (s : Service σ κ) (expression : String) (b : Backends σ κ),
      (∀ ts, tokenize expression = .ok ts → ¬ Leaves .sum 0 ts 1) →
      ∃ defect events,
        s.evaluate expression b = (⟨.error (.malformed defect), events⟩, b) ∧
        s.traced.evaluate expression b.traced =
          (⟨.error (.malformed defect), events⟩, b.traced) :=
  ⟨fun _ => accepted_iff_leaves, fun _ => sentence_iff_accepted, evaluate_of_not_leaves⟩

/-- `(1)(2)+` is accepted, as a sum, and no sentence. -/
theorem accepted_without_sentence :
    ofInfix [.leftParen, .number 1, .rightParen, .leftParen, .number 2, .rightParen, .operator .add] =
      .ok [.number 1, .number 2, .operator .add] ∧
    ¬ Sentence [.leftParen, .number 1, .rightParen, .leftParen, .number 2, .rightParen,
      .operator .add] := by
  refine ⟨rfl, fun h => ?_⟩
  have ha := h.apart
  simp [Apart, Token.endsOperand, Token.startsOperand] at ha

end ExprGateway
