import ExprGateway.Proofs.Expression.Grammar
import Mathlib.Data.List.TakeDrop

/-!
# What conversion to postfix order computes

The conversion never asks which token may follow which.  What it reads is therefore a wider grammar
than that of infix expressions: where an operand is expected there may be a row of any number of
numbers and groups, none included.  `Arranged n ts p` derives the tokens `ts` in that grammar, and `p`
is the postfix order along the derivation.

* `Arranged.run`: from any state, reading `ts` leaves some operators `pending` on top of those that
  waited before; all of them bind at least as tightly as the category of `ts`, and releasing them
  completes `p`.  This is the invariant of the conversion, over an arbitrary lower part of the stack.
* `exists_arranged_of_run`: whatever is read with its parentheses closed has such a derivation.

Together they say what conversion does to every list of tokens (`ofInfix_eq_ok_iff`).
-/

namespace ExprGateway

/-! ## Categories and precedences -/

namespace Category

/-- The least precedence of an operator inside a phrase, outside of its parentheses. -/
def precedence : Category → Nat
  | sum => 2
  | product => 3
  | operand => 4

/-- The category of right operands. -/
def tighter : Category → Category
  | sum => product
  | product | operand => operand

theorem precedence_le_tighter (n : Category) : n.precedence ≤ n.tighter.precedence := by
  cases n <;> decide

end Category

namespace Operator

/-- What an operator makes of its operands. -/
def category : Operator → Category
  | add | subtract => .sum
  | multiply | divide => .product

theorem precedence_category (o : Operator) : o.category.precedence = o.precedence := by
  cases o <;> rfl

theorem precedence_lt_tighter (o : Operator) :
    o.precedence < o.category.tighter.precedence := by
  cases o <;> decide

theorem precedence_lt_operand (o : Operator) : o.precedence < Category.operand.precedence := by
  cases o <;> decide

theorem category_ne_operand (o : Operator) : o.category ≠ .operand := by
  cases o <;> decide

end Operator

/-! ## The wider grammar -/

/-- Rows of numbers and groups, joined by operators; the tokens, and their postfix order. -/
inductive Arranged : Category → List Token → Postfix → Prop where
  | none : Arranged .operand [] []
  | number {ts : List Token} {p : Postfix} (value : Float) :
      Arranged .operand ts p → Arranged .operand (ts ++ [.number value]) (p ++ [.number value])
  | group {ts us : List Token} {p q : Postfix} :
      Arranged .operand ts p → Arranged .sum us q →
      Arranged .operand (ts ++ (.leftParen :: us ++ [.rightParen])) (p ++ q)
  | lift {n : Category} {ts : List Token} {p : Postfix} :
      n ≠ .operand → Arranged n.tighter ts p → Arranged n ts p
  | binary {n : Category} {ts us : List Token} {p q : Postfix} {o : Operator} :
      o.category = n → Arranged n ts p → Arranged n.tighter us q →
      Arranged n (ts ++ .operator o :: us) (p ++ q ++ [.operator o])

/-- An infix expression is arranged in the postfix order of its tree. -/
theorem Phrase.arranged {n : Category} {ts : List Token} {t : Tree} (h : Phrase n ts t) :
    Arranged n ts t.postorder := by
  induction h with
  | number value => exact .number value .none
  | group _ ih => exact .group .none ih
  | ofOperand _ ih => exact .lift (by decide) ih
  | product ho _ _ ihl ihr => exact .binary (by rcases ho with rfl | rfl <;> rfl) ihl ihr
  | ofProduct _ ih => exact .lift (by decide) ih
  | sum ho _ _ ihl ihr => exact .binary (by rcases ho with rfl | rfl <;> rfl) ihl ihr

/-! ## Conversion computes the arrangement -/

namespace Postfix

open Yard

/-- An operator releases what binds at least as tightly, down to the first that does not. -/
theorem span_yieldsTo {o : Operator} {pending waiting : List Operator}
    (hp : ∀ q ∈ pending, o.precedence ≤ q.precedence)
    (hw : ∀ q ∈ waiting, q.precedence < o.precedence) :
    (pending ++ waiting).span o.yieldsTo = (pending, waiting) := by
  have hp' : ∀ q ∈ pending, o.yieldsTo q = true := fun q hq => (o.yieldsTo_iff q).mpr (hp q hq)
  rw [List.span_eq_takeWhile_dropWhile, List.takeWhile_append_of_pos hp',
    List.dropWhile_append_of_pos hp']
  cases waiting with
  | nil => simp
  | cons q waiting =>
      have hq : o.yieldsTo q = false := by
        rw [Bool.eq_false_iff, ne_eq, o.yieldsTo_iff]
        exact Nat.not_le.mpr (hw q List.mem_cons_self)
      simp [hq]

theorem release_append (output : List Token) (a b : List Operator) :
    release output (a ++ b) = release (release output a) b := by
  simp [release]

/-- Nothing that an operand leaves behind can be pending: no operator binds so tightly. -/
theorem eq_nil_of_operand {pending : List Operator}
    (h : ∀ q ∈ pending, Category.operand.precedence ≤ q.precedence) : pending = [] :=
  List.eq_nil_iff_forall_not_mem.mpr fun q hq =>
    absurd (h q hq) (Nat.not_le.mpr q.precedence_lt_operand)

end Postfix

open Postfix Yard in
theorem Arranged.run {n : Category} {ts : List Token} {p : Postfix} (h : Arranged n ts p) :
    ∀ y : Yard, (∀ q ∈ y.waiting, q.precedence < n.precedence) →
      ∃ output pending, ts.foldlM step y = .ok ⟨output, pending ++ y.waiting, y.outer⟩ ∧
        (∀ q ∈ pending, n.precedence ≤ q.precedence) ∧
        release output pending = p.reverse ++ y.output := by
  induction h with
  | none => exact fun y _ => ⟨y.output, [], rfl, by simp, rfl⟩
  | @number ts p value _ ih =>
      intro y hw
      obtain ⟨output, pending, hrun, hp, hout⟩ := ih y hw
      obtain rfl := eq_nil_of_operand hp
      refine ⟨.number value :: output, [], foldlM_append_of_ok hrun, hp, ?_⟩
      have : output = p.reverse ++ y.output := hout
      simp [release, this]
  | @group ts us p q _ _ ih₁ ih₂ =>
      intro y hw
      obtain ⟨output, pending, hrun, hp, hout⟩ := ih₁ y hw
      obtain rfl := eq_nil_of_operand hp
      -- inside the parentheses nothing waits, and the closing one releases all that came up there
      obtain ⟨output₂, pending₂, hrun₂, -, hout₂⟩ :=
        ih₂ ⟨output, [], y.waiting :: y.outer⟩ (by simp)
      refine ⟨release output₂ pending₂, [], ?_, hp, ?_⟩
      · rw [foldlM_append_of_ok hrun, List.cons_append, List.foldlM_cons]
        show (us ++ [Token.rightParen]).foldlM step ⟨output, [], y.waiting :: y.outer⟩ = _
        rw [foldlM_append_of_ok hrun₂, List.append_nil]
        rfl
      · have : output = p.reverse ++ y.output := hout
        show release output₂ pending₂ = _
        rw [hout₂, this, List.reverse_append, List.append_assoc]
  | @lift n _ _ _ _ ih =>
      intro y hw
      have hn := n.precedence_le_tighter
      obtain ⟨output, pending, hrun, hp, hout⟩ := ih y fun q hq => (hw q hq).trans_le hn
      exact ⟨output, pending, hrun, fun q hq => hn.trans (hp q hq), hout⟩
  | @binary n ts us p q o ho _ _ ih₁ ih₂ =>
      subst ho
      intro y hw
      have hc := o.precedence_category
      obtain ⟨output, pending, hrun, hp, hout⟩ := ih₁ y hw
      have hspan : (pending ++ y.waiting).span o.yieldsTo = (pending, y.waiting) :=
        span_yieldsTo (fun q hq => hc ▸ hp q hq) (fun q hq => hc ▸ hw q hq)
      have hlt := o.precedence_lt_tighter
      obtain ⟨output₂, pending₂, hrun₂, hp₂, hout₂⟩ :=
        ih₂ ⟨release output pending, o :: y.waiting, y.outer⟩ (by
          rintro q (_ | ⟨_, hq⟩)
          · exact hlt
          · exact ((hw q hq).trans_eq hc).trans hlt)
      refine ⟨output₂, pending₂ ++ [o], ?_, ?_, ?_⟩
      · rw [foldlM_append_of_ok hrun, List.foldlM_cons]
        show (do
          let y' ← step ⟨output, pending ++ y.waiting, y.outer⟩ (.operator o)
          us.foldlM step y') = _
        simp only [step, hspan, List.append_assoc]
        exact hrun₂
      · intro q hq
        rcases List.mem_append.mp hq with hq | hq
        · exact (hc.trans_le hlt.le).trans (hp₂ q hq)
        · rw [List.mem_singleton.mp hq, hc]
      · rw [release_append, hout₂, hout]
        simp [release]

/-! ## Every list with closed parentheses is arranged

Reading goes on at the right end, so the lemmas of this section put something behind a phrase.  A
number or a group goes into the last row.  An operator closes the last row, and that is the row of a
sum or of a product as the operator asks. -/

theorem Arranged.append_operand {us : List Token}
    (hus : ∀ {ts : List Token} {p : Postfix}, Arranged .operand ts p →
      ∃ q, Arranged .operand (ts ++ us) q)
    {n : Category} {ts : List Token} {p : Postfix} (h : Arranged n ts p) :
    ∃ q, Arranged n (ts ++ us) q := by
  induction h with
  | none => exact hus .none
  | number value h _ => exact hus (.number value h)
  | group h₁ h₂ _ _ => exact hus (.group h₁ h₂)
  | lift hn _ ih =>
      obtain ⟨q, hq⟩ := ih
      exact ⟨q, .lift hn hq⟩
  | binary ho h₁ _ _ ih₂ =>
      obtain ⟨q, hq⟩ := ih₂
      rw [List.append_assoc, List.cons_append]
      exact ⟨_, .binary ho h₁ hq⟩

theorem Arranged.append_number {n : Category} {ts : List Token} {p : Postfix}
    (h : Arranged n ts p) (value : Float) : ∃ q, Arranged n (ts ++ [.number value]) q :=
  h.append_operand fun hr => ⟨_, .number value hr⟩

theorem Arranged.append_group {n : Category} {ts us : List Token} {p q : Postfix}
    (h : Arranged n ts p) (hu : Arranged .sum us q) :
    ∃ r, Arranged n (ts ++ (.leftParen :: us ++ [.rightParen])) r :=
  h.append_operand fun hr => ⟨_, .group hr hu⟩

/-- An empty row counts as a phrase of every category. -/
theorem arranged_nil (n : Category) : Arranged n [] [] := by
  have hproduct : Arranged .product [] [] := .lift (by decide) .none
  cases n with
  | operand => exact .none
  | product => exact hproduct
  | sum => exact .lift (by decide) hproduct

theorem Arranged.append_operator {ts : List Token} {p : Postfix} (h : Arranged .sum ts p)
    (o : Operator) : ∃ q, Arranged .sum (ts ++ [.operator o]) q := by
  cases ho : o.category with
  | operand => exact absurd ho o.category_ne_operand
  | sum => exact ⟨_, .binary ho h (arranged_nil _)⟩
  | product =>
      cases h with
      | lift hn hp => exact ⟨_, .lift hn (.binary ho hp (arranged_nil _))⟩
      | binary ho₁ h₁ h₂ =>
          rw [List.append_assoc, List.cons_append]
          exact ⟨_, .binary ho₁ h₁ (.binary ho h₂ (arranged_nil _))⟩

/-- Tokens with a number of parentheses open: a phrase stands in front of each, and behind the last. -/
inductive Opened : Nat → List Token → Prop where
  | flat {ts : List Token} {p : Postfix} : Arranged .sum ts p → Opened 0 ts
  | inside {n : Nat} {ts us : List Token} {q : Postfix} :
      Opened n ts → Arranged .sum us q → Opened (n + 1) (ts ++ .leftParen :: us)

theorem Opened.append {us : List Token}
    (hus : ∀ {ts : List Token} {p : Postfix}, Arranged .sum ts p → ∃ q, Arranged .sum (ts ++ us) q)
    {n : Nat} {ts : List Token} (h : Opened n ts) : Opened n (ts ++ us) := by
  cases h with
  | flat h =>
      obtain ⟨q, hq⟩ := hus h
      exact .flat hq
  | inside h₁ h₂ =>
      obtain ⟨q, hq⟩ := hus h₂
      rw [List.append_assoc, List.cons_append]
      exact .inside h₁ hq

namespace Postfix

open Yard

theorem opened_of_step {ts : List Token} {y y' : Yard} {token : Token}
    (h : Opened y.outer.length ts) (hstep : y.step token = .ok y') :
    Opened y'.outer.length (ts ++ [token]) := by
  cases token with
  | number value =>
      obtain rfl := Except.ok.inj hstep
      exact h.append fun ha => ha.append_number value
  | operator o =>
      obtain rfl := Except.ok.inj hstep
      exact h.append fun ha => ha.append_operator o
  | leftParen =>
      obtain rfl := Except.ok.inj hstep
      exact .inside h (arranged_nil _)
  | rightParen =>
      obtain ⟨output, waiting, outer⟩ := y
      match outer, h, hstep with
      | [], _, hstep => cases hstep
      | around :: outer, .inside h₁ h₂, hstep =>
          obtain rfl := Except.ok.inj hstep
          rw [List.append_assoc]
          exact h₁.append fun ha => ha.append_group h₂

theorem opened_of_run {ts : List Token} :
    ∀ {y : Yard}, ts.foldlM step start = .ok y → Opened y.outer.length ts := by
  induction ts using List.reverseRecOn with
  | nil =>
      intro y h
      obtain rfl := Except.ok.inj h
      exact .flat (arranged_nil _)
  | append_singleton ts token ih =>
      intro y h
      obtain ⟨between, hrun, hlast⟩ := exists_of_foldlM_append h
      rw [List.foldlM_cons] at hlast
      cases hstep : between.step token with
      | error e => rw [hstep] at hlast; cases hlast
      | ok after =>
          rw [hstep] at hlast
          obtain rfl := Except.ok.inj hlast
          exact opened_of_step (ih hrun) hstep

/-- What is read without an error, and with its parentheses closed, is arranged. -/
theorem exists_arranged_of_run {ts : List Token} {y : Yard}
    (h : ts.foldlM step start = .ok y) (hy : y.outer = []) : ∃ p, Arranged .sum ts p := by
  have ho := opened_of_run h
  rw [hy] at ho
  cases ho with
  | flat ha => exact ⟨_, ha⟩

/-! ## Conversion as a whole -/

/-- The conversion of an arranged list, before the check. -/
theorem run_of_arranged {ts : List Token} {p : Postfix} (h : Arranged .sum ts p) :
    ∃ y : Yard, ts.foldlM step start = .ok y ∧ y.finish = .ok p := by
  obtain ⟨output, pending, hrun, -, hout⟩ := h.run start (by simp [start])
  refine ⟨_, hrun, ?_⟩
  show Except.ok (release output (pending ++ [])).reverse = _
  rw [List.append_nil, hout]
  simp [start]

theorem ofInfix_of_arranged {ts : List Token} {p : Postfix} (h : Arranged .sum ts p) :
    ofInfix ts = check p >>= fun _ => .ok p := by
  obtain ⟨y, hrun, hfin⟩ := run_of_arranged h
  rw [ofInfix, hrun]
  show y.finish >>= _ = _
  rw [hfin]
  rfl

/-- Conversion succeeds exactly on the lists whose arrangement passes the check, and gives it. -/
theorem ofInfix_eq_ok_iff {ts : List Token} {p : Postfix} :
    ofInfix ts = .ok p ↔ Arranged .sum ts p ∧ check p = .ok () := by
  constructor
  · intro h
    cases hrun : ts.foldlM step start with
    | error e => rw [ofInfix, hrun] at h; cases h
    | ok y =>
        have hy : y.outer = [] := by
          rw [ofInfix, hrun] at h
          obtain ⟨output, waiting, outer⟩ := y
          cases outer with
          | nil => rfl
          | cons => cases h
        obtain ⟨q, hq⟩ := exists_arranged_of_run hrun hy
        rw [ofInfix_of_arranged hq] at h
        cases hc : check q with
        | error e => rw [hc] at h; cases h
        | ok =>
            rw [hc] at h
            obtain rfl := Except.ok.inj h
            exact ⟨hq, hc⟩
  · rintro ⟨ha, hc⟩
    rw [ofInfix_of_arranged ha, hc]
    rfl

end Postfix

/-- What compiles has tokens that are converted. -/
theorem compile_eq_ok_iff {expression : String} {p : Postfix} :
    compile expression = .ok p ↔
      ∃ ts, tokenize expression = .ok ts ∧ Postfix.ofInfix ts = .ok p := by
  rw [compile]
  cases tokenize expression with
  | error defect =>
      constructor
      · intro h
        cases h
      · rintro ⟨ts, ht, -⟩
        cases ht
  | ok ts =>
      constructor
      · intro h
        exact ⟨ts, rfl, h⟩
      · rintro ⟨us, hu, h⟩
        obtain rfl := Except.ok.inj hu
        exact h

end ExprGateway
