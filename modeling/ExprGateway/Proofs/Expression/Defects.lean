import ExprGateway.Proofs.Evaluation.Forecast
import ExprGateway.Proofs.Expression.Conservation

/-!
# Which defect is found

Two questions decide what a conversion has to say of its tokens.

* Do the parentheses pair up?  The conversion keeps as many of them open as a reader that looks at nothing
  else (`map_foldlM_step`), and this reader comes to an end with none open exactly where they are `Balanced`
  (`balanced_iff`).  That comes first, whatever else is wrong.
* Does the finished sequence come down to one value?  It has no parentheses any more and the numbers and
  operators of the tokens, so the count at its end is that of the numbers less that of the operators.
  `Tally` is what this leaves of the verdicts of the check, over any count at the start.

`Ruling` lists the outcomes, each with what it says of the tokens, and `ruling` says that there is no other.
-/

namespace ExprGateway.Postfix

open Yard

/-! ## Parentheses read alone -/

/-- How many parentheses are open behind one more token. -/
def nesting : Nat → Token → Except Malformed Nat
  | depth, .leftParen => .ok (depth + 1)
  | 0, .rightParen => .error .unbalancedParentheses
  | depth + 1, .rightParen => .ok depth
  | depth, .number _ => .ok depth
  | depth, .operator _ => .ok depth

theorem map_step (y : Yard) (t : Token) :
    (y.step t).map (·.outer.length) = nesting y.outer.length t := by
  obtain ⟨output, waiting, outer⟩ := y
  cases t with
  | number value => cases outer <;> rfl
  | operator o => cases outer <;> rfl
  | leftParen => cases outer <;> rfl
  | rightParen => cases outer <;> rfl

/-- The conversion has as many parentheses open as are open in the tokens. -/
theorem map_foldlM_step (ts : List Token) :
    ∀ y : Yard, (ts.foldlM step y).map (·.outer.length) = ts.foldlM nesting y.outer.length := by
  induction ts with
  | nil => exact fun y => rfl
  | cons t ts ih =>
      intro y
      rw [List.foldlM_cons, List.foldlM_cons, ← map_step]
      cases y.step t with
      | error e => rfl
      | ok y' => exact ih y'

theorem eq_unbalanced_of_nesting {ts : List Token} {e : Malformed} :
    ∀ {depth : Nat}, ts.foldlM nesting depth = .error e → e = .unbalancedParentheses := by
  induction ts with
  | nil => exact fun h => nomatch h
  | cons t ts ih =>
      intro depth h
      rw [List.foldlM_cons] at h
      cases ht : nesting depth t with
      | ok depth' =>
          rw [ht] at h
          exact ih h
      | error e' =>
          rw [ht] at h
          obtain rfl := Except.error.inj h
          match depth, t, ht with
          | 0, .rightParen, ht => exact (Except.error.inj ht).symm

/-- No prefix closes more parentheses than it opens, `depth` being open before it. -/
def Closes (depth : Nat) (ts : List Token) : Prop :=
  ∀ us, us <+: ts → us.count .rightParen ≤ depth + us.count .leftParen

theorem closes_cons {depth : Nat} {t : Token} {ts : List Token} :
    Closes depth (t :: ts) ↔
      ∀ us, us <+: ts → (t :: us).count .rightParen ≤ depth + (t :: us).count .leftParen := by
  constructor
  · intro h us hus
    exact h (t :: us) ((List.prefix_cons_inj t).mpr hus)
  · intro h us hus
    rcases List.prefix_cons_iff.mp hus with rfl | ⟨vs, rfl, hvs⟩
    · exact Nat.zero_le _
    · exact h vs hvs

/-- The reader of parentheses goes through where no prefix closes too many, and counts the rest. -/
theorem foldlM_nesting_iff {ts : List Token} :
    ∀ {depth depth' : Nat}, ts.foldlM nesting depth = .ok depth' ↔
      Closes depth ts ∧ depth' + ts.count .rightParen = depth + ts.count .leftParen := by
  induction ts with
  | nil =>
      intro depth depth'
      constructor
      · intro h
        obtain rfl := Except.ok.inj h
        refine ⟨fun us hus => ?_, rfl⟩
        rw [List.prefix_nil.mp hus]
        exact Nat.zero_le _
      · rintro ⟨-, h⟩
        exact congrArg Except.ok h.symm
  | cons t ts ih =>
      intro depth depth'
      rw [List.foldlM_cons, closes_cons]
      cases t with
      | number value =>
          show ts.foldlM nesting depth = _ ↔ _
          simp [ih, Closes]
      | operator o =>
          show ts.foldlM nesting depth = _ ↔ _
          simp [ih, Closes]
      | leftParen =>
          show ts.foldlM nesting (depth + 1) = _ ↔ _
          have hopened : ∀ us : List Token, (Token.leftParen :: us).count .leftParen =
            us.count .leftParen + 1 := fun us => List.count_cons_self
          have hclosed : ∀ us : List Token, (Token.leftParen :: us).count .rightParen =
            us.count .rightParen := fun us => List.count_cons_of_ne (by simp)
          simp only [ih, Closes, hopened, hclosed, Nat.add_comm, Nat.add_left_comm]
      | rightParen =>
          have hopened : ∀ us : List Token, (Token.rightParen :: us).count .leftParen =
            us.count .leftParen := fun us => List.count_cons_of_ne (by simp)
          have hclosed : ∀ us : List Token, (Token.rightParen :: us).count .rightParen =
            us.count .rightParen + 1 := fun us => List.count_cons_self
          simp only [hopened, hclosed]
          cases depth with
          | zero =>
              -- the empty prefix of the rest is one too many already
              refine ⟨fun h => (nomatch h), fun ⟨h, _⟩ => ?_⟩
              have hnone := h [] List.nil_prefix
              simp at hnone
          | succ depth =>
              show ts.foldlM nesting depth = _ ↔ _
              rw [ih]
              refine and_congr (forall₂_congr fun us _ => ?_) ?_
              · omega
              · omega

/-- Every parenthesis has a partner: no prefix closes more than it opens, and in the end all are closed. -/
structure Balanced (ts : List Token) : Prop where
  prefixes : ∀ us, us <+: ts → us.count .rightParen ≤ us.count .leftParen
  totals : ts.count .rightParen = ts.count .leftParen

theorem balanced_iff {ts : List Token} : Balanced ts ↔ ts.foldlM nesting 0 = .ok 0 := by
  rw [foldlM_nesting_iff]
  simp only [Closes, Nat.zero_add]
  exact ⟨fun h => ⟨h.prefixes, h.totals⟩, fun h => ⟨h.1, h.2⟩⟩

/-- Tokens whose parentheses pair up are arranged, and of the others nothing else is said. -/
theorem ofInfix_cases (ts : List Token) :
    (Balanced ts ∧ ∃ p, Arranged .sum ts p ∧ ofInfix ts = check p >>= fun _ => .ok p) ∨
      ¬ Balanced ts ∧ ofInfix ts = .error .unbalancedParentheses := by
  have hnesting := map_foldlM_step ts start
  cases hrun : ts.foldlM step start with
  | error e =>
      rw [hrun] at hnesting
      obtain rfl := eq_unbalanced_of_nesting hnesting.symm
      refine .inr ⟨fun hb => ?_, by rw [ofInfix, hrun]; rfl⟩
      have hread := hnesting.trans (balanced_iff.mp hb)
      cases hread
  | ok y =>
      rw [hrun] at hnesting
      cases houter : y.outer with
      | nil =>
          obtain ⟨p, hp⟩ := exists_arranged_of_run hrun houter
          refine .inl ⟨balanced_iff.mpr (hnesting.symm.trans ?_), p, hp, ofInfix_of_arranged hp⟩
          rw [Except.map, houter]
          rfl
      | cons around outer =>
          refine .inr ⟨fun hb => ?_, ?_⟩
          · have hread : y.outer.length = 0 :=
              Except.ok.inj (hnesting.trans (balanced_iff.mp hb))
            rw [houter] at hread
            cases hread
          · rw [ofInfix, hrun]
            show y.finish >>= _ = _
            rw [Yard.finish, houter]
            rfl

/-! ## Counting the finished sequence -/

/-- What the verdicts of the check say of the numbers and operators of a sequence, `depth` values being there
before it. -/
inductive Tally (depth : Nat) (p : Postfix) : Except Malformed Unit → Prop where
  | one : depth + p.numbers.length = p.operators.length + 1 → Tally depth p (.ok ())
  | none : depth = 0 → p = [] → Tally depth p (.error .empty)
  | many {count : Nat} :
      2 ≤ count → depth + p.numbers.length = p.operators.length + count →
      Tally depth p (.error (.danglingOperands count))
  | missing {o : Operator} : o ∈ p.operators → Tally depth p (.error (.missingOperand o))

/-- A token that is read counts for itself, and leaves a value. -/
theorem depthAfter_eq_ok {depth depth' : Nat} {t : Token} (h : depthAfter depth t = .ok depth') :
    0 < depth' ∧ depth + t.number?.toList.length = t.operator?.toList.length + depth' := by
  cases t with
  | number value =>
      obtain rfl := Except.ok.inj h
      exact ⟨Nat.succ_pos depth, (Nat.zero_add _).symm⟩
  | operator o =>
      rw [depthAfter] at h
      split at h
      · cases h
      · have hdepth := Except.ok.inj h
        refine ⟨by omega, ?_⟩
        show depth + 0 = 1 + depth'
        omega
  | leftParen => cases h
  | rightParen => cases h

theorem Tally.cons {depth depth' : Nat} {t : Token} {p : Postfix} {verdict : Except Malformed Unit}
    (ht : depthAfter depth t = .ok depth') (h : Tally depth' p verdict) :
    Tally depth (t :: p) verdict := by
  obtain ⟨hpos, hcount⟩ := depthAfter_eq_ok ht
  cases h with
  | one hp => exact .one (by simp only [numbers_cons, operators_cons, List.length_append]; omega)
  | none hzero _ => omega
  | many htwo hp =>
      exact .many htwo (by simp only [numbers_cons, operators_cons, List.length_append]; omega)
  | missing ho => exact .missing (by simp [ho])

/-- The check of a sequence without parentheses. -/
theorem tally_of_counted {depth : Nat} {p front : Postfix} {verdict : Except Malformed Unit}
    (h : Counted depth p front verdict) :
    .leftParen ∉ p ∧ .rightParen ∉ p → Tally depth p verdict := by
  induction h with
  | atEnd depth =>
      intro _
      match depth with
      | 0 => exact .none rfl rfl
      | 1 => exact .one rfl
      | count + 2 => exact .many (Nat.le_add_left 2 count) (by simp)
  | @defect depth t defect rest ht =>
      intro hflat
      cases t with
      | number value => cases ht
      | operator o =>
          rw [depthAfter] at ht
          split at ht
          · obtain rfl := Except.error.inj ht
            exact .missing (by simp [Token.operator?])
          · cases ht
      | leftParen => exact absurd List.mem_cons_self hflat.1
      | rightParen => exact absurd List.mem_cons_self hflat.2
  | read ht _ ih =>
      intro hflat
      refine .cons ht (ih ⟨fun hmem => hflat.1 ?_, fun hmem => hflat.2 ?_⟩)
      · exact List.mem_cons_of_mem _ hmem
      · exact List.mem_cons_of_mem _ hmem

/-! ## All outcomes -/

/-- The outcomes of a conversion, and what each of them says of the tokens. -/
inductive Ruling (ts : List Token) : Except Malformed Postfix → Prop where
  | unbalanced : ¬ Balanced ts → Ruling ts (.error .unbalancedParentheses)
  | empty : Balanced ts → numbers ts = [] → operators ts = [] → Ruling ts (.error .empty)
  | dangling {count : Nat} :
      Balanced ts → 2 ≤ count → (numbers ts).length = (operators ts).length + count →
      Ruling ts (.error (.danglingOperands count))
  | missing {o : Operator} :
      Balanced ts → o ∈ operators ts → Ruling ts (.error (.missingOperand o))
  | converted {p : Postfix} :
      Balanced ts → (numbers ts).length = (operators ts).length + 1 → Ruling ts (.ok p)

theorem ruling (ts : List Token) : Ruling ts (ofInfix ts) := by
  rcases ofInfix_cases ts with ⟨hb, p, harranged, hconv⟩ | ⟨hb, hconv⟩
  · obtain ⟨hflat, hnumbers, hoperators⟩ := harranged.keeps
    obtain ⟨front, hfront⟩ := exists_counted_check p
    have htally := tally_of_counted hfront hflat
    have hlength := hoperators.length_eq
    rw [hconv]
    generalize check p = verdict at htally
    cases htally with
    | one hcount => exact .converted hb (by rw [← hnumbers, ← hlength]; omega)
    | none _ hp =>
        subst hp
        exact .empty hb hnumbers.symm (List.nil_perm.mp hoperators)
    | many htwo hcount => exact .dangling hb htwo (by rw [← hnumbers, ← hlength]; omega)
    | missing ho => exact .missing hb (hoperators.mem_iff.mp ho)
  · rw [hconv]
    exact .unbalanced hb

namespace Ruling

variable {ts : List Token} {outcome : Except Malformed Postfix}

theorem eq_unbalanced_iff (h : Ruling ts outcome) :
    outcome = .error .unbalancedParentheses ↔ ¬ Balanced ts := by
  constructor
  · rintro rfl
    cases h with
    | unbalanced hb => exact hb
  · intro hb
    cases h with
    | unbalanced _ => rfl
    | empty hbalanced _ _ => exact absurd hbalanced hb
    | dangling hbalanced _ _ => exact absurd hbalanced hb
    | missing hbalanced _ => exact absurd hbalanced hb
    | converted hbalanced _ => exact absurd hbalanced hb

theorem eq_empty_iff (h : Ruling ts outcome) (hb : Balanced ts) :
    outcome = .error .empty ↔ (numbers ts).length = 0 ∧ (operators ts).length = 0 := by
  constructor
  · rintro rfl
    cases h with
    | empty _ hnumbers hoperators =>
        rw [hnumbers, hoperators]
        exact ⟨rfl, rfl⟩
  · rintro ⟨hn, hm⟩
    cases h with
    | unbalanced hnot => exact absurd hb hnot
    | empty _ _ _ => rfl
    | dangling _ _ hcount => omega
    | missing _ ho =>
        rw [List.length_eq_zero_iff.mp hm] at ho
        cases ho
    | converted _ hcount => omega

/-- Where numbers are lacking, some operator has no operands. -/
theorem exists_missing (h : Ruling ts outcome) (hb : Balanced ts)
    (hle : (numbers ts).length ≤ (operators ts).length) (hpos : 0 < (operators ts).length) :
    ∃ o ∈ operators ts, outcome = .error (.missingOperand o) := by
  cases h with
  | unbalanced hnot => exact absurd hb hnot
  | empty _ _ hoperators =>
      rw [hoperators] at hpos
      cases hpos
  | dangling _ _ hcount => omega
  | @missing o _ ho => exact ⟨o, ho, rfl⟩
  | converted _ hcount => omega

end Ruling

/-- Unbalanced parentheses are found first and whatever else is wrong.  Where they are balanced, `n` numbers
and `m` operators decide: nothing of either is an empty expression, an accepted list has one number more than
operators, a surplus of numbers is what is left over, and a lack of them is an operator without operands. -/
theorem defect_by_counts (ts : List Token) :
    (ofInfix ts = .error .unbalancedParentheses ↔ ¬ Balanced ts) ∧
    (Balanced ts →
      let n := (numbers ts).length
      let m := (operators ts).length
      (ofInfix ts = .error .empty ↔ n = 0 ∧ m = 0) ∧
      (∀ count, ofInfix ts = .error (.danglingOperands count) → count = n - m ∧ 2 ≤ n - m) ∧
      (∀ p, ofInfix ts = .ok p → n = m + 1) ∧
      (n ≤ m → 0 < m → ∃ o ∈ operators ts, ofInfix ts = .error (.missingOperand o))) := by
  have hruling := ruling ts
  generalize ofInfix ts = outcome at hruling
  refine ⟨hruling.eq_unbalanced_iff, fun hb => ⟨hruling.eq_empty_iff hb, ?_, ?_,
    hruling.exists_missing hb⟩⟩
  · rintro count rfl
    cases hruling with
    | dangling _ htwo hcount => omega
  · rintro p rfl
    cases hruling with
    | converted _ hcount => exact hcount

/-- A group of two numbers and an operator behind its operands leave two values. -/
theorem defect_by_counts_surplus :
    let ts : List Token := [.leftParen, .number 1, .number 2, .rightParen, .number 3, .operator .add]
    Balanced ts ∧ ofInfix ts = .error (.danglingOperands 2) ∧
      2 = (numbers ts).length - (operators ts).length := by
  intro ts
  have hb : Balanced ts := balanced_iff.mpr rfl
  have hconv : ofInfix ts = .error (.danglingOperands 2) := rfl
  obtain ⟨-, hsurplus, -⟩ := (defect_by_counts ts).2 hb
  exact ⟨hb, hconv, (hsurplus 2 hconv).1⟩

end ExprGateway.Postfix
