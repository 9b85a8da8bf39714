import ExprGateway.Proofs.Expression.Arrangement
import ExprGateway.Proofs.Expression.Factoring

/-!
# Expressions put together

An expression in parentheses compiles to what it compiles to without them, and two such expressions with
an operator between them to the two sequences and the operator (`compile_composes`).  This holds of
everything that is accepted, well-formed or not: conversion sees an arrangement, a group is a row of its
own in an arrangement, and the check adds one value for each side.
-/

namespace ExprGateway

open Postfix

/-! ## Groups among the tokens -/

namespace Arranged

variable {ts us : List Token} {p q : Postfix}

/-- A group is a row by itself. -/
theorem grouped (h : Arranged .sum ts p) : Arranged .operand (.leftParen :: ts ++ [.rightParen]) p :=
  .group .none h

/-- What is an operand is a phrase of every category. -/
theorem of_operand (h : Arranged .operand ts p) (n : Category) : Arranged n ts p := by
  have hproduct : Arranged .product ts p := .lift (by decide) h
  cases n with
  | operand => exact h
  | product => exact hproduct
  | sum => exact .lift (by decide) hproduct

/-- Two operands with an operator between them. -/
theorem joined (h₁ : Arranged .operand ts p) (h₂ : Arranged .operand us q) (o : Operator) :
    Arranged .sum (ts ++ .operator o :: us) (p ++ q ++ [.operator o]) := by
  have h : Arranged o.category (ts ++ .operator o :: us) (p ++ q ++ [.operator o]) :=
    .binary rfl (h₁.of_operand _) (h₂.of_operand _)
  cases ho : o.category with
  | operand => exact absurd ho o.category_ne_operand
  | product =>
      rw [ho] at h
      exact .lift (by decide) h
  | sum => rwa [ho] at h

end Arranged

section Conversion

variable {ts us : List Token} {p q : Postfix}

theorem ofInfix_group (h : ofInfix ts = .ok p) :
    ofInfix (.leftParen :: ts ++ [.rightParen]) = .ok p := by
  obtain ⟨harranged, hcheck⟩ := ofInfix_eq_ok_iff.mp h
  exact ofInfix_eq_ok_iff.mpr ⟨harranged.grouped.of_operand _, hcheck⟩

/-- Two sequences that pass the check pass it with an operator behind them. -/
theorem check_joined (hp : check p = .ok ()) (hq : check q = .ok ()) (o : Operator) :
    check (p ++ q ++ [.operator o]) = .ok () := by
  obtain ⟨l, rfl⟩ := exists_tree_of_check hp
  obtain ⟨r, rfl⟩ := exists_tree_of_check hq
  exact check_postorder (.node o l r)

theorem ofInfix_joined (h₁ : ofInfix ts = .ok p) (h₂ : ofInfix us = .ok q) (o : Operator) :
    ofInfix ((.leftParen :: ts ++ [.rightParen]) ++
      .operator o :: (.leftParen :: us ++ [.rightParen])) = .ok (p ++ q ++ [.operator o]) := by
  obtain ⟨harranged₁, hcheck₁⟩ := ofInfix_eq_ok_iff.mp h₁
  obtain ⟨harranged₂, hcheck₂⟩ := ofInfix_eq_ok_iff.mp h₂
  exact ofInfix_eq_ok_iff.mpr
    ⟨harranged₁.grouped.joined harranged₂.grouped o, check_joined hcheck₁ hcheck₂ o⟩

end Conversion

/-! ## Parentheses around a text -/

section Texts

variable {e : String} {ts : List Token}

/-- The expression in parentheses. -/
def parenthesized (e : String) : String := "(" ++ e ++ ")"

theorem tokenize_parenthesized (h : tokenize e = .ok ts) :
    tokenize (parenthesized e) = .ok (.leftParen :: ts ++ [.rightParen]) := by
  have hempty : tokenize "" = .ok [] := rfl
  have hopen : tokenize ("" ++ String.singleton '(' ++ e) = .ok ([] ++ .leftParen :: ts) :=
    tokenize_around hempty rfl h
  have hclose := tokenize_around (c := ')') hopen rfl hempty
  simpa [parenthesized] using hclose

end Texts

/-- Compilation is compositional: parentheses add nothing to an expression, and an operator between two
expressions in parentheses joins what they compile to. -/
theorem compile_composes :
    (∀ {e : String} {p : Postfix}, compile e = .ok p → compile (parenthesized e) = .ok p) ∧
    ∀ {e₁ e₂ : String} {p₁ p₂ : Postfix}, compile e₁ = .ok p₁ → compile e₂ = .ok p₂ →
      ∀ o : Operator,
        compile (parenthesized e₁ ++ String.singleton o.symbol ++ parenthesized e₂) =
          .ok (p₁ ++ p₂ ++ [.operator o]) := by
  constructor
  · intro e p h
    obtain ⟨ts, ht, hconv⟩ := compile_eq_ok_iff.mp h
    exact compile_eq_ok_iff.mpr ⟨_, tokenize_parenthesized ht, ofInfix_group hconv⟩
  · intro e₁ e₂ p₁ p₂ h₁ h₂ o
    obtain ⟨ts, ht, hconv₁⟩ := compile_eq_ok_iff.mp h₁
    obtain ⟨us, hu, hconv₂⟩ := compile_eq_ok_iff.mp h₂
    have htokens := tokenize_around (tokenize_parenthesized ht) (Token.ofSymbol?_operator o)
      (tokenize_parenthesized hu)
    exact compile_eq_ok_iff.mpr ⟨_, htokens, ofInfix_joined hconv₁ hconv₂ o⟩

/-- An operand out of place on the left, a numeral with a blank in it on the right. -/
theorem compile_composes_row :
    compile "(1)(2)+" = .ok [.number 1, .number 2, .operator .add] ∧ compile "3 4" = .ok [.number 34] ∧
    compile (parenthesized "(1)(2)+") = .ok [.number 1, .number 2, .operator .add] ∧
    compile (parenthesized "(1)(2)+" ++ String.singleton '*' ++ parenthesized "3 4") =
      .ok [.number 1, .number 2, .operator .add, .number 34, .operator .multiply] := by
  have hrow : compile "(1)(2)+" = .ok [.number 1, .number 2, .operator .add] :=
    eq_ok_of_toOption (by decide +kernel)
  have hnumber : compile "3 4" = .ok [.number 34] := eq_ok_of_toOption (by decide +kernel)
  exact ⟨hrow, hnumber, compile_composes.1 hrow, compile_composes.2 hrow hnumber .multiply⟩

end ExprGateway
