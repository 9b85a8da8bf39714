import ExprGateway.Expression.Postfix

/-!
# Expressions as trees, and their postfix order

A binary expression is a tree with numbers at its leaves and operators at its inner nodes.
`Tree.postorder` lists it in postfix order: left subtree, right subtree, operator.

The arity check is a fold over counts of values, and the correspondence between it and the trees is in
three parts:

* `foldlM_depthAfter_postorder`: reading the listing of a tree adds one value, whatever the values
  below are, so the listing of a tree passes the check (`check_postorder`);
* `tree?` reads a sequence with a stack of trees in place of the count.  The stack lists what was read
  (`listing_foldlM_push`) and the listing of a tree puts this tree on it (`foldlM_push_postorder`), so
  the listing determines the tree;
* `length_foldlM_push`: the count is the number of trees on the stack, so a sequence that passes the
  check is the listing of a tree (`exists_tree_of_check`).
-/

namespace ExprGateway

/-- A binary expression. -/
inductive Tree where
  | leaf (value : Float)
  | node (operator : Operator) (left right : Tree)

namespace Tree

/-- The postfix order of a tree. -/
def postorder : Tree → Postfix
  | leaf value => [.number value]
  | node operator left right => left.postorder ++ right.postorder ++ [.operator operator]

/-- The operators of a tree, in the order in which their operands are complete. -/
def operators : Tree → List Operator
  | leaf _ => []
  | node operator left right => left.operators ++ right.operators ++ [operator]

/-- What a stack of trees lists, its top last. -/
def listing (stack : List Tree) : Postfix := stack.reverse.flatMap postorder

theorem listing_cons (t : Tree) (stack : List Tree) :
    listing (t :: stack) = listing stack ++ t.postorder := by
  simp [listing]

end Tree

/-- The operator of a token, if it is one. -/
def Token.operator? : Token → Option Operator
  | .operator o => some o
  | _ => none

namespace Postfix

/-- The operators of a sequence. -/
def operators (p : Postfix) : List Operator := p.filterMap Token.operator?

theorem operators_postorder (t : Tree) : operators t.postorder = t.operators := by
  induction t with
  | leaf value => rfl
  | node o left right ihl ihr =>
      simp only [operators] at ihl ihr
      simp [operators, Tree.postorder, Tree.operators, ihl, ihr, Token.operator?]

/-! ## Reading in two parts -/

section Reading

variable {ε α β : Type} {f : β → α → Except ε β} {xs ys : List α} {a b c : β}

theorem foldlM_append_of_ok (h : xs.foldlM f a = .ok b) :
    (xs ++ ys).foldlM f a = ys.foldlM f b := by
  rw [List.foldlM_append, h]
  rfl

theorem exists_of_foldlM_append (h : (xs ++ ys).foldlM f a = .ok c) :
    ∃ b, xs.foldlM f a = .ok b ∧ ys.foldlM f b = .ok c := by
  cases hx : xs.foldlM f a with
  | error e => rw [List.foldlM_append, hx] at h; cases h
  | ok b => exact ⟨b, rfl, (foldlM_append_of_ok hx).symm.trans h⟩

end Reading

/-- An operator needs two values and makes one of them. -/
theorem foldlM_operator_eq_ok_iff {o : Operator} {d e : Nat} :
    [Token.operator o].foldlM depthAfter d = .ok e ↔ ∃ f, d = f + 2 ∧ e = f + 1 := by
  have hone : [Token.operator o].foldlM depthAfter d = depthAfter d (.operator o) := by
    rw [List.foldlM_cons]
    cases depthAfter d (.operator o) <;> rfl
  rw [hone, depthAfter]
  constructor
  · intro h
    split at h
    · cases h
    · have he := Except.ok.inj h
      exact ⟨d - 2, by omega, by omega⟩
  · rintro ⟨f, rfl, rfl⟩
    rw [if_neg (by omega)]
    rfl

/-- To pass the check is to add one value to none. -/
theorem check_eq_ok_iff {p : Postfix} : check p = .ok () ↔ p.foldlM depthAfter 0 = .ok 1 := by
  rw [check]
  cases p.foldlM depthAfter 0 with
  | error e => constructor <;> intro h <;> cases h
  | ok depth =>
      match depth with
      | 0 => constructor <;> intro h <;> cases h
      | 1 => exact ⟨fun _ => rfl, fun _ => rfl⟩
      | _ + 2 => constructor <;> intro h <;> cases h

/-! ## The listing of a tree passes the check -/

theorem foldlM_depthAfter_postorder (t : Tree) (depth : Nat) :
    t.postorder.foldlM depthAfter depth = .ok (depth + 1) := by
  induction t generalizing depth with
  | leaf value => rfl
  | node o left right ihl ihr =>
      rw [Tree.postorder, List.append_assoc, foldlM_append_of_ok (ihl depth),
        foldlM_append_of_ok (ihr (depth + 1))]
      exact foldlM_operator_eq_ok_iff.mpr ⟨depth, rfl, rfl⟩

theorem check_postorder (t : Tree) : check t.postorder = .ok () :=
  check_eq_ok_iff.mpr (foldlM_depthAfter_postorder t 0)

/-! ## A sequence read back as a tree

The stack of an evaluation can hold trees as well as values.  Nothing is lost on it: what it lists is what
was read. -/

/-- The stack behind one more token, its top first: an operator takes two trees and makes one. -/
def push : List Tree → Token → Option (List Tree)
  | stack, .number value => some (.leaf value :: stack)
  | right :: left :: stack, .operator o => some (.node o left right :: stack)
  | _, _ => none

/-- The tree that a sequence lists. -/
def tree? (p : Postfix) : Option Tree :=
  match p.foldlM push [] with
  | some [t] => some t
  | _ => none

theorem listing_push {stack stack' : List Tree} {token : Token} (h : push stack token = some stack') :
    Tree.listing stack' = Tree.listing stack ++ [token] := by
  cases token with
  | number value =>
      obtain rfl : .leaf value :: stack = stack' := by simpa [push] using h
      exact Tree.listing_cons _ _
  | operator o =>
      match stack, h with
      | right :: left :: stack, h =>
          obtain rfl : .node o left right :: stack = stack' := Option.some.inj h
          simp only [Tree.listing_cons, Tree.postorder, List.append_assoc]
  | leftParen => simp [push] at h
  | rightParen => simp [push] at h

theorem listing_foldlM_push {p : Postfix} :
    ∀ {stack stack' : List Tree}, p.foldlM push stack = some stack' →
      Tree.listing stack' = Tree.listing stack ++ p := by
  induction p with
  | nil =>
      intro stack stack' h
      obtain rfl : stack = stack' := Option.some.inj h
      exact (List.append_nil _).symm
  | cons token p ih =>
      intro stack stack' h
      rw [List.foldlM_cons] at h
      obtain ⟨between, hfirst, hrest⟩ := Option.bind_eq_some_iff.mp h
      rw [ih hrest, listing_push hfirst, List.append_assoc]
      rfl

/-- The listing of a tree puts this tree on the stack, whatever is there. -/
theorem foldlM_push_postorder (t : Tree) :
    ∀ stack : List Tree, t.postorder.foldlM push stack = some (t :: stack) := by
  induction t with
  | leaf value => exact fun stack => by simp [Tree.postorder, push]
  | node o left right ihl ihr =>
      intro stack
      rw [Tree.postorder, List.append_assoc, List.foldlM_append, ihl stack]
      show (right.postorder ++ [Token.operator o]).foldlM push (left :: stack) = _
      rw [List.foldlM_append, ihr (left :: stack)]
      rfl

/-- Reading back undoes listing, and finds nothing else. -/
theorem tree?_eq_some_iff {p : Postfix} {t : Tree} : p.tree? = some t ↔ p = t.postorder := by
  constructor
  · intro h
    rw [tree?] at h
    split at h
    next u hu =>
      obtain rfl := Option.some.inj h
      have hlisting := listing_foldlM_push hu
      simpa [Tree.listing] using hlisting.symm
    next => cases h
  · rintro rfl
    rw [tree?, foldlM_push_postorder]

/-- One sequence that is the listing of a tree, and one that is none though its counts are right. -/
example : tree? [.number 1, .number 2, .number 3, .operator .multiply, .operator .subtract] =
    some (.node .subtract (.leaf 1) (.node .multiply (.leaf 2) (.leaf 3))) ∧
    tree? [.number 1, .operator .add, .number 2] = none := ⟨rfl, rfl⟩

/-! ## What passes the check is the listing of a tree -/

/-- The check counts what is on the stack. -/
theorem length_push (stack : List Tree) (token : Token) :
    (push stack token).map List.length = (depthAfter stack.length token).toOption := by
  cases token with
  | number value => simp [push, depthAfter, Except.toOption]
  | operator o =>
      match stack with
      | [] => rfl
      | [_] => rfl
      | _ :: _ :: _ => rfl
  | leftParen => simp [push, depthAfter, Except.toOption]
  | rightParen => simp [push, depthAfter, Except.toOption]

theorem length_foldlM_push (p : Postfix) :
    ∀ stack : List Tree,
      (p.foldlM push stack).map List.length = (p.foldlM depthAfter stack.length).toOption := by
  induction p with
  | nil => exact fun stack => rfl
  | cons token p ih =>
      intro stack
      have hstep := length_push stack token
      rw [List.foldlM_cons, List.foldlM_cons]
      cases hpush : push stack token with
      | none =>
          cases hdepth : depthAfter stack.length token with
          | error e => rfl
          | ok depth => rw [hpush, hdepth] at hstep; cases hstep
      | some stack' =>
          cases hdepth : depthAfter stack.length token with
          | error e => rw [hpush, hdepth] at hstep; cases hstep
          | ok depth =>
              rw [hpush, hdepth] at hstep
              obtain rfl : stack'.length = depth := Option.some.inj hstep
              exact ih stack'

/-- What passes the check is the postfix order of a tree. -/
theorem exists_tree_of_check {p : Postfix} (h : check p = .ok ()) : ∃ t : Tree, p = t.postorder := by
  have hlength := length_foldlM_push p []
  rw [List.length_nil, check_eq_ok_iff.mp h] at hlength
  obtain ⟨stack, hstack, hone⟩ := Option.map_eq_some_iff.mp hlength
  obtain ⟨t, rfl⟩ := List.length_eq_one_iff.mp hone
  exact ⟨t, tree?_eq_some_iff.mp (by rw [tree?, hstack])⟩

/-- The check passes exactly the listings of trees, and a listing is that of one tree only. -/
theorem check_passes_listings :
    (∀ p : Postfix, check p = .ok () ↔ ∃ t : Tree, p = t.postorder) ∧
      Function.Injective Tree.postorder := by
  refine ⟨fun p => ⟨exists_tree_of_check, ?_⟩, fun t u h => ?_⟩
  · rintro ⟨t, rfl⟩
    exact check_postorder t
  · have hread : t.postorder.tree? = some u := tree?_eq_some_iff.mpr h
    exact Option.some.inj ((tree?_eq_some_iff.mpr rfl).symm.trans hread)

end Postfix

end ExprGateway
