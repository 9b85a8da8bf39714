import ExprGateway.Text.Blank
import Mathlib.Data.List.DropRight

/-!
# Trimming

A text without the blanks at its ends is the part in the middle of it that has no blank at an end, with
nothing but blanks on either side.  There is one such part (`trimBlanks_eq_iff`), so what is trimmed stays
as it is.
-/

namespace ExprGateway

/-- No blank is at an end of a text. -/
structure Tight (cs : List Char) : Prop where
  head : ∀ c ∈ cs.head?, isBlank c = false
  last : ∀ c ∈ cs.getLast?, isBlank c = false

/-- The part in the middle of a text: it is tight, and there are blanks on either side of it. -/
inductive Trimmed : List Char → List Char → Prop where
  | intro {front core back : List Char} : (∀ c ∈ front, isBlank c = true) → Tight core →
      (∀ c ∈ back, isBlank c = true) → Trimmed (front ++ core ++ back) core

variable {cs core : List Char}

theorem isBlank_of_mem_head?_dropWhile {c : Char} (h : c ∈ (cs.dropWhile isBlank).head?) :
    isBlank c = false := by
  have hnot := List.head?_dropWhile_not isBlank cs
  rw [Option.mem_def.mp h] at hnot
  simpa using hnot

theorem dropWhile_append_of_head? {front back : List Char} (hfront : ∀ c ∈ front, isBlank c = true)
    (hback : ∀ c ∈ back.head?, isBlank c = false) : (front ++ back).dropWhile isBlank = back := by
  rw [List.dropWhile_append_of_pos hfront]
  cases back with
  | nil => rfl
  | cons c back => rw [List.dropWhile_cons_of_neg (by simp [hback c rfl])]

theorem Trimmed.trimBlanks_eq (h : Trimmed cs core) : trimBlanks cs = core := by
  obtain @⟨front, core, back, hfront, hcore, hback⟩ := h
  have hback' : ∀ c ∈ back.reverse, isBlank c = true := fun c hc => hback c (List.mem_reverse.mp hc)
  have hlast : ∀ c ∈ core.reverse.head?, isBlank c = false := by
    rw [List.head?_reverse]
    exact hcore.last
  cases core with
  | nil =>
      have hall : ∀ c ∈ front ++ [] ++ back, isBlank c = true := by
        rw [List.append_nil]
        exact List.forall_mem_append.mpr ⟨hfront, hback⟩
      rw [trimBlanks, List.dropWhile_eq_nil_iff.mpr hall]
      rfl
  | cons d core =>
      have hhead : ∀ c ∈ (d :: core ++ back).head?, isBlank c = false := hcore.head
      rw [trimBlanks, List.append_assoc, dropWhile_append_of_head? hfront hhead, List.reverse_append,
        dropWhile_append_of_head? hback' hlast, List.reverse_reverse]

theorem tight_trimBlanks (cs : List Char) : Tight (trimBlanks cs) := by
  have hfront : trimBlanks cs <+: cs.dropWhile isBlank := List.rdropWhile_prefix _ _
  constructor
  · intro c hc
    obtain ⟨rest, hrest⟩ := hfront
    have hhead : c ∈ (cs.dropWhile isBlank).head? := by
      rw [← hrest, List.head?_append, Option.mem_def.mp hc]
      rfl
    exact isBlank_of_mem_head?_dropWhile hhead
  · intro c hc
    rw [trimBlanks, List.getLast?_reverse] at hc
    exact isBlank_of_mem_head?_dropWhile hc

/-- Trimming finds the part in the middle. -/
theorem trimBlanks_eq_iff : trimBlanks cs = core ↔ Trimmed cs core := by
  refine ⟨?_, Trimmed.trimBlanks_eq⟩
  rintro rfl
  have hsplit : cs = cs.takeWhile isBlank ++ trimBlanks cs ++
      (cs.dropWhile isBlank).rtakeWhile isBlank := by
    have htrim : trimBlanks cs = (cs.dropWhile isBlank).rdropWhile isBlank := rfl
    rw [htrim, List.append_assoc, List.rdropWhile_append_rtakeWhile, List.takeWhile_append_dropWhile]
  have h : Trimmed (cs.takeWhile isBlank ++ trimBlanks cs ++
      (cs.dropWhile isBlank).rtakeWhile isBlank) (trimBlanks cs) :=
    .intro (fun c hc => List.mem_takeWhile_imp hc) (tight_trimBlanks cs)
      (fun c hc => List.mem_rtakeWhile_imp hc)
  rwa [← hsplit] at h

theorem Trimmed.length_le (h : Trimmed cs core) : core.length ≤ cs.length := by
  obtain ⟨⟩ := h
  simp only [List.length_append]
  omega

theorem Tight.trimmed (h : Tight cs) : Trimmed cs cs := by
  have hnone : ∀ c ∈ ([] : List Char), isBlank c = true := fun c hc => nomatch hc
  have htrimmed := Trimmed.intro hnone h hnone
  rwa [List.nil_append, List.append_nil] at htrimmed

/-- A text without a blank at an end stays as it is. -/
theorem Tight.trimBlanks_eq (h : Tight cs) : trimBlanks cs = cs := h.trimmed.trimBlanks_eq

theorem tight_of_forall (h : ∀ c ∈ cs, isBlank c = false) : Tight cs :=
  ⟨fun c hc => h c (List.mem_of_mem_head? hc), fun c hc => h c (List.mem_of_mem_getLast? hc)⟩

theorem mem_of_mem_trimBlanks {c : Char} (h : c ∈ trimBlanks cs) : c ∈ cs := by
  have hfront : trimBlanks cs <+: cs.dropWhile isBlank := List.rdropWhile_prefix _ _
  exact (List.dropWhile_sublist _).subset (hfront.subset h)

/-! ## Strings -/

theorem toList_trim (s : String) : (trim s).toList = trimBlanks s.toList := String.toList_ofList

theorem trim_trim (s : String) : trim (trim s) = trim s := by
  rw [← String.toList_inj, toList_trim, toList_trim, (tight_trimBlanks _).trimBlanks_eq]

end ExprGateway
