import Mathlib

/-!
# Texts between separators

A text is cut wherever a character stands, and its pieces are those of its list of characters
(`splitOn_singleton`).  The library walks over the bytes of the text; between two characters it knows
where the current piece begins and how far it has come, and this is the invariant of the walk
(`splitOnAux_singleton`).

What is known of lists then holds of texts.  No piece has the separator in it, and pieces without it
that are put together with separators between them are found again (`splitOn_intercalate`).
-/

namespace ExprGateway

open String

/-! ## The walk over the bytes -/

section Walk

variable {c d : Char} (l m r : List Char) (done : List String)

theorem atEnd_ofList_iff {cs : List Char} {i : Nat} :
    Pos.Raw.atEnd (ofList cs) ⟨i⟩ = true ↔ utf8Len cs ≤ i := by
  simp

theorem splitOnAux_nil (c : Char) :
    splitOnAux (ofList (l ++ m)) (singleton c) ⟨utf8Len l⟩ ⟨utf8Len (l ++ m)⟩ 0 done =
      (ofList m :: done).reverse := by
  have hpiece := extract_of_valid l m []
  rw [List.append_nil] at hpiece
  rw [splitOnAux, if_pos (atEnd_ofList_iff.mpr le_rfl), utf8Len_append, hpiece]

theorem not_atEnd_cons :
    ¬ Pos.Raw.atEnd (ofList (l ++ m ++ d :: r)) ⟨utf8Len (l ++ m)⟩ = true := by
  have hsize := d.utf8Size_pos
  rw [atEnd_ofList_iff, utf8Len_append (l ++ m), utf8Len_cons]
  omega

/-- The separator is a text of one character, so one step is all of it. -/
theorem step_singleton (c : Char) :
    Pos.Raw.get (singleton c) 0 = c ∧ Pos.Raw.next (singleton c) 0 = ⟨c.utf8Size⟩ ∧
      Pos.Raw.atEnd (singleton c) ⟨c.utf8Size⟩ = true := by
  have hnext := next_of_valid [] c []
  rw [List.nil_append, utf8Len_nil, Nat.zero_add] at hnext
  rw [singleton_eq_ofList]
  exact ⟨get_of_valid [] [c], hnext, atEnd_ofList_iff.mpr (by simp)⟩

/-- A separator ends a piece, and the next one begins behind it. -/
theorem splitOnAux_cons_self (c : Char) :
    splitOnAux (ofList (l ++ m ++ c :: r)) (singleton c) ⟨utf8Len l⟩ ⟨utf8Len (l ++ m)⟩ 0 done =
      splitOnAux (ofList (l ++ m ++ c :: r)) (singleton c) ⟨utf8Len (l ++ m) + c.utf8Size⟩
        ⟨utf8Len (l ++ m) + c.utf8Size⟩ 0 (ofList m :: done) := by
  obtain ⟨hget, hnext, hend⟩ := step_singleton c
  have hback : Pos.Raw.unoffsetBy ⟨utf8Len (l ++ m) + c.utf8Size⟩ ⟨c.utf8Size⟩ =
      ⟨utf8Len l + utf8Len m⟩ := by
    rw [utf8Len_append]
    exact congrArg Pos.Raw.mk (Nat.add_sub_cancel _ _)
  rw [splitOnAux, if_neg (not_atEnd_cons l m r), get_of_valid (l ++ m) (c :: r),
    next_of_valid (l ++ m) c r, hget, hnext, List.headD_cons, if_pos (beq_self_eq_true c)]
  dsimp only
  rw [if_pos hend, hback, extract_of_valid]

/-- Any other character belongs to the current piece. -/
theorem splitOnAux_cons_of_ne (h : d ≠ c) :
    splitOnAux (ofList (l ++ m ++ d :: r)) (singleton c) ⟨utf8Len l⟩ ⟨utf8Len (l ++ m)⟩ 0 done =
      splitOnAux (ofList (l ++ m ++ d :: r)) (singleton c) ⟨utf8Len l⟩
        ⟨utf8Len (l ++ m) + d.utf8Size⟩ 0 done := by
  have hstay : Pos.Raw.unoffsetBy ⟨utf8Len (l ++ m)⟩ 0 = ⟨utf8Len (l ++ m)⟩ := rfl
  rw [splitOnAux, if_neg (not_atEnd_cons l m r), get_of_valid (l ++ m) (d :: r),
    (step_singleton c).1, List.headD_cons, if_neg (by simpa using h), hstay,
    next_of_valid (l ++ m) d r]

end Walk

theorem modifyHead_nil_append (pieces : List (List Char)) :
    pieces.modifyHead ([] ++ ·) = pieces := by
  cases pieces <;> rfl

/-- The pieces that are found where `m` of the current piece is behind the walk and `r` in front of
it. -/
theorem splitOnAux_singleton (c : Char) (r : List Char) :
    ∀ (l m : List Char) (done : List String),
      splitOnAux (ofList (l ++ m ++ r)) (singleton c) ⟨utf8Len l⟩ ⟨utf8Len (l ++ m)⟩ 0 done =
        done.reverse ++ ((r.splitOn c).modifyHead (m ++ ·)).map ofList := by
  induction r with
  | nil =>
      intro l m done
      rw [List.append_nil, splitOnAux_nil]
      simp
  | cons d r ih =>
      intro l m done
      by_cases h : d = c
      · subst h
        have hrest := ih (l ++ m ++ [d]) [] (ofList m :: done)
        have hlen : utf8Len (l ++ m ++ [d]) = utf8Len (l ++ m) + d.utf8Size := by
          simp [Nat.add_assoc]
        rw [List.append_nil, List.append_assoc _ [d], List.singleton_append, hlen] at hrest
        rw [splitOnAux_cons_self, hrest, List.splitOn_cons_eq_if_modifyHead,
          if_pos (beq_self_eq_true d), modifyHead_nil_append]
        simp
      · have hrest := ih l (m ++ [d]) done
        have hlen : utf8Len (l ++ (m ++ [d])) = utf8Len (l ++ m) + d.utf8Size := by
          simp [Nat.add_assoc]
        rw [hlen, ← List.append_assoc, List.append_assoc _ [d], List.singleton_append] at hrest
        rw [splitOnAux_cons_of_ne l m r done h, hrest, List.splitOn_cons_eq_if_modifyHead,
          if_neg (by simpa using h), List.modifyHead_modifyHead]
        simp [Function.comp_def]

/-! ## Pieces -/

/-- Cutting a text at a character is cutting the list of its characters. -/
theorem splitOn_singleton (s : String) (c : Char) :
    s.splitOn (singleton c) = (s.toList.splitOn c).map ofList := by
  have hwalk := splitOnAux_singleton c s.toList [] [] []
  rw [List.nil_append, List.nil_append, ofList_toList] at hwalk
  have hne : ¬ (singleton c == "") = true := by simp
  rw [modifyHead_nil_append] at hwalk
  rw [splitOn, if_neg hne]
  exact hwalk

theorem notMem_of_mem_splitOn {α : Type} [BEq α] [LawfulBEq α] {x : α} :
    ∀ {xs piece : List α}, piece ∈ xs.splitOn x → x ∉ piece := by
  intro xs
  induction xs with
  | nil =>
      intro piece h
      rw [List.splitOn_nil, List.mem_singleton] at h
      rw [h]
      exact List.not_mem_nil
  | cons y xs ih =>
      intro piece h
      obtain ⟨first, rest, hsplit⟩ := List.exists_cons_of_ne_nil (List.splitOn_ne_nil x xs)
      rw [List.splitOn_cons_eq_if_modifyHead, hsplit, List.modifyHead_cons] at h
      rw [hsplit] at ih
      split_ifs at h with hy
      · rcases List.mem_cons.mp h with rfl | h
        · exact List.not_mem_nil
        · exact ih h
      · rcases List.mem_cons.mp h with rfl | h
        · intro hmem
          rcases List.mem_cons.mp hmem with rfl | hmem
          · exact hy (beq_self_eq_true x)
          · exact ih List.mem_cons_self hmem
        · exact ih (List.mem_cons_of_mem _ h)

/-- No piece has the separator in it. -/
theorem notMem_of_mem_splitOn_singleton {s piece : String} {c : Char}
    (h : piece ∈ s.splitOn (singleton c)) : c ∉ piece.toList := by
  rw [splitOn_singleton] at h
  obtain ⟨cs, hcs, rfl⟩ := List.mem_map.mp h
  rw [toList_ofList]
  exact notMem_of_mem_splitOn hcs

/-- Pieces without the separator are found again. -/
theorem splitOn_intercalate {pieces : List String} {c : Char} (hne : pieces ≠ [])
    (h : ∀ piece ∈ pieces, c ∉ piece.toList) :
    ((singleton c).intercalate pieces).splitOn (singleton c) = pieces := by
  have hlists : ∀ cs ∈ pieces.map toList, c ∉ cs := by
    intro cs hcs
    obtain ⟨piece, hpiece, rfl⟩ := List.mem_map.mp hcs
    exact h piece hpiece
  rw [splitOn_singleton, toList_intercalate, toList_singleton,
    List.splitOn_intercalate c hlists (by simpa using hne), List.map_map]
  simp

end ExprGateway
