import ExprGateway.Number.Digits
import ExprGateway.Proofs.Number.ReadBack

/-!
# Whole numbers of a word

A word is written in decimal digits, perhaps behind a plus sign, and is read exactly if its number fits
into 64 bits (`word?_eq_some_iff`).  Letters are digits of larger bases only (`value?_ten`).
-/

namespace ExprGateway.Digits

open Literal

/-- Digits, perhaps behind a plus sign, and their number. -/
inductive WordNumeral : List Char → Nat → Prop where
  | plain {ds : List Char} : ds ≠ [] → (∀ c ∈ ds, c.isDigit = true) → WordNumeral ds (digitsValue ds)
  | plus {ds : List Char} : ds ≠ [] → (∀ c ∈ ds, c.isDigit = true) →
      WordNumeral ('+' :: ds) (digitsValue ds)

theorem WordNumeral.exists_isDigit {cs : List Char} {n : Nat} (h : WordNumeral cs n) :
    ∃ c ∈ cs, c.isDigit = true := by
  cases h with
  | plain hne hd =>
      obtain ⟨c, rest, rfl⟩ := List.exists_cons_of_ne_nil hne
      exact ⟨c, List.mem_cons_self, hd c List.mem_cons_self⟩
  | plus hne hd =>
      obtain ⟨c, rest, rfl⟩ := List.exists_cons_of_ne_nil hne
      exact ⟨c, List.mem_cons_of_mem _ List.mem_cons_self, hd c List.mem_cons_self⟩

theorem value?_ten (c : Char) : value? 10 c = if c.isDigit then some (digitValue c) else none := by
  rw [value?]
  by_cases hdigit : c.isDigit = true
  · have hlt : c.toNat - '0'.toNat < 10 := by
      have := toNat_of_isDigit hdigit
      show c.toNat - 48 < 10
      omega
    simp only [hdigit, if_true, hlt]
    rfl
  · -- a letter is worth ten at least
    simp only [hdigit, if_false, Bool.false_eq_true]
    split_ifs <;> first | rfl | omega

theorem number?_ten (cs : List Char) :
    number? 10 cs = if cs.all Char.isDigit then some (digitsValue cs) else none := by
  suffices ∀ n, cs.foldlM (fun n c => (value? 10 c).map (10 * n + ·)) n =
      if cs.all Char.isDigit then some (cs.foldl (fun n c => 10 * n + digitValue c) n) else none from
    this 0
  induction cs with
  | nil => exact fun _ => rfl
  | cons c cs ih =>
      intro n
      rw [List.foldlM_cons, value?_ten, List.all_cons, List.foldl_cons]
      cases hc : c.isDigit with
      | true => exact ih _
      | false => rfl

theorem unsigned_eq_some_iff {ds : List Char} {n : Nat} :
    (if ds.isEmpty then none else (number? 10 ds).filter (· < 1 <<< 64)) = some n ↔
      (ds ≠ [] ∧ (∀ c ∈ ds, c.isDigit = true) ∧ digitsValue ds = n) ∧ n < 2 ^ 64 := by
  rw [number?_ten, Option.ite_none_left_eq_some, List.isEmpty_iff, Option.filter_eq_some_iff,
    Option.ite_none_right_eq_some, List.all_eq_true, Option.some.injEq, decide_eq_true_iff]
  simp only [and_assoc]
  rfl

/-- A word is read exactly if it is written and fits. -/
theorem word?_eq_some_iff {cs : List Char} {n : Nat} :
    word? cs = some n ↔ WordNumeral cs n ∧ n < 2 ^ 64 := by
  unfold word?
  constructor
  · intro h
    split at h
    · obtain ⟨⟨hne, hd, rfl⟩, hlt⟩ := unsigned_eq_some_iff.mp h
      exact ⟨.plus hne hd, hlt⟩
    · obtain ⟨⟨hne, hd, rfl⟩, hlt⟩ := unsigned_eq_some_iff.mp h
      exact ⟨.plain hne hd, hlt⟩
  · rintro ⟨h, hlt⟩
    refine unsigned_eq_some_iff.mpr ⟨?_, hlt⟩
    cases h with
    | plain hne hd =>
        split
        · exact absurd (hd '+' List.mem_cons_self) (by decide)
        · exact ⟨hne, hd, rfl⟩
    | plus hne hd => exact ⟨hne, hd, rfl⟩

end ExprGateway.Digits
