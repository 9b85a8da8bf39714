import ExprGateway.Proofs.Expression.Tree
import Mathlib.Data.List.Chain

/-!
# The grammar of infix expressions

Two grammars of the same token lists:

* `Phrase` is layered: sums of products of operands, each layer grouping to the left.  A derivation
  fixes the tree that the tokens denote; parentheses leave no node in it.
* `Sentence` has one category, and says no more than that operators stand between operands and
  parentheses around expressions.  It is ambiguous, so it denotes nothing.

`sentence_iff_phrase` says that they derive the same lists.  The direction from sentences needs
`Phrase.join`: two sums with an operator between them are a sum again, whatever the operator is, since
the derivation of the right one can be regrouped along its left spine.
-/

namespace ExprGateway

/-- The layers of the grammar. -/
inductive Category where
  | sum
  | product
  | operand
deriving DecidableEq

/-- Derivations: the category, the tokens and the tree that they denote. -/
inductive Phrase : Category → List Token → Tree → Prop where
  | number (value : Float) : Phrase .operand [.number value] (.leaf value)
  | group {ts : List Token} {t : Tree} :
      Phrase .sum ts t → Phrase .operand (.leftParen :: ts ++ [.rightParen]) t
  | ofOperand {ts : List Token} {t : Tree} : Phrase .operand ts t → Phrase .product ts t
  | product {ts us : List Token} {l r : Tree} {o : Operator} :
      o = .multiply ∨ o = .divide → Phrase .product ts l → Phrase .operand us r →
      Phrase .product (ts ++ .operator o :: us) (.node o l r)
  | ofProduct {ts : List Token} {t : Tree} : Phrase .product ts t → Phrase .sum ts t
  | sum {ts us : List Token} {l r : Tree} {o : Operator} :
      o = .add ∨ o = .subtract → Phrase .sum ts l → Phrase .product us r →
      Phrase .sum (ts ++ .operator o :: us) (.node o l r)

/-- Operators between operands, parentheses around expressions. -/
inductive Sentence : List Token → Prop where
  | number (value : Float) : Sentence [.number value]
  | group {ts : List Token} : Sentence ts → Sentence (.leftParen :: ts ++ [.rightParen])
  | binary {ts us : List Token} (o : Operator) :
      Sentence ts → Sentence us → Sentence (ts ++ .operator o :: us)

/-! ## The two grammars derive the same lists -/

theorem Phrase.sentence {n : Category} {ts : List Token} {t : Tree} (h : Phrase n ts t) :
    Sentence ts := by
  induction h with
  | number value => exact .number value
  | group _ ih => exact .group ih
  | ofOperand _ ih => exact ih
  | product _ _ _ ihl ihr => exact .binary _ ihl ihr
  | ofProduct _ ih => exact ih
  | sum _ _ _ ihl ihr => exact .binary _ ihl ihr

/-- A sum can be continued by any operator and an operand.  A product or quotient takes only the last
product of the sum as its left side. -/
theorem Phrase.join_operand {ts us : List Token} {l r : Tree} (h : Phrase .sum ts l)
    (h' : Phrase .operand us r) (o : Operator) :
    ∃ t : Tree, Phrase .sum (ts ++ .operator o :: us) t := by
  by_cases ho : o = .add ∨ o = .subtract
  · exact ⟨_, .sum ho h (.ofOperand h')⟩
  · have hm : o = .multiply ∨ o = .divide := by cases o <;> simp_all
    cases h with
    | ofProduct hp => exact ⟨_, .ofProduct (.product hm hp h')⟩
    | sum hs h₁ h₂ =>
        rw [List.append_assoc, List.cons_append]
        exact ⟨_, .sum hs h₁ (.product hm h₂ h')⟩

theorem Phrase.join {n : Category} {ts us : List Token} {l r : Tree} (h : Phrase .sum ts l)
    (h' : Phrase n us r) (o : Operator) :
    ∃ t : Tree, Phrase .sum (ts ++ .operator o :: us) t := by
  induction h' with
  | number value => exact h.join_operand (.number value) o
  | group hg _ => exact h.join_operand (.group hg) o
  | ofOperand _ ih => exact ih
  | product _ _ hr ihl _ =>
      obtain ⟨t, ht⟩ := ihl
      rw [← List.cons_append, ← List.append_assoc]
      exact ht.join_operand hr _
  | ofProduct _ ih => exact ih
  | sum ho _ hr ihl _ =>
      obtain ⟨t, ht⟩ := ihl
      rw [← List.cons_append, ← List.append_assoc]
      exact ⟨_, .sum ho ht hr⟩

theorem sentence_iff_phrase {ts : List Token} :
    Sentence ts ↔ ∃ t : Tree, Phrase .sum ts t := by
  constructor
  · intro h
    induction h with
    | number value => exact ⟨_, .ofProduct (.ofOperand (.number value))⟩
    | group _ ih =>
        obtain ⟨t, ht⟩ := ih
        exact ⟨t, .ofProduct (.ofOperand (.group ht))⟩
    | binary o _ _ ihl ihr =>
        obtain ⟨l, hl⟩ := ihl
        obtain ⟨r, hr⟩ := ihr
        exact hl.join hr o
  · rintro ⟨t, ht⟩
    exact ht.sentence

/-! ## Operands side by side -/

/-- Whether an operand may end with a token. -/
def Token.endsOperand : Token → Bool
  | .number _ | .rightParen => true
  | .operator _ | .leftParen => false

/-- Whether an operand may start with a token. -/
def Token.startsOperand : Token → Bool
  | .number _ | .leftParen => true
  | .operator _ | .rightParen => false

/-- No operand stands directly behind another. -/
def Apart (ts : List Token) : Prop :=
  ts.IsChain fun a b => (a.endsOperand && b.startsOperand) = false

theorem apart_cons {a : Token} {ts : List Token} (h : a.endsOperand = false) :
    Apart (a :: ts) ↔ Apart ts := by
  simp [Apart, List.isChain_cons, h]

theorem apart_concat {b : Token} {ts : List Token} (h : b.startsOperand = false) :
    Apart (ts ++ [b]) ↔ Apart ts := by
  simp [Apart, List.isChain_append, h]

theorem apart_binary {ts us : List Token} {o : Operator} :
    Apart (ts ++ .operator o :: us) ↔ Apart ts ∧ Apart us := by
  have hs : Apart (ts ++ .operator o :: us) ↔
      Apart (ts ++ [.operator o]) ∧ Apart (.operator o :: us) := List.isChain_split
  rw [hs, apart_concat rfl, apart_cons rfl]

theorem apart_group {ts : List Token} :
    Apart (.leftParen :: ts ++ [.rightParen]) ↔ Apart ts := by
  rw [apart_concat rfl, apart_cons rfl]

/-- In a sentence there is an operator between any two operands. -/
theorem Sentence.apart {ts : List Token} (h : Sentence ts) : Apart ts := by
  induction h with
  | number value => exact .singleton _
  | group _ ih => exact apart_group.mpr ih
  | binary o _ _ ihl ihr => exact apart_binary.mpr ⟨ihl, ihr⟩

end ExprGateway
