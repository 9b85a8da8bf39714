import ExprGateway.Proofs.Http.Wire

/-!
# The lines of a page

A page is read line by line, and a line from mark to mark.  Nothing is quoted in it, so what carries this
is which characters the text of a number lacks, those with names instead of digits included
(`lacks_formatNumber`, `lacks_fixed`).  The first end of a line is then where the line ends, which makes
the lines of a page unique (`Lines.unique`), and the first blank behind a number is where the number
ends, although an operator and a number may begin with the same sign (`line_eq_iff`).

A number is known from its text but for the sign of zero, so a page says all of an evaluation but
this sign and what is lost in rounding the times (`page_eq_iff`).
-/

namespace ExprGateway.Http

open Binary64

/-! ## Marks -/

theorem lacks_fixed (places : Nat) (x : Float) : Lacks ['\r', '\n'] (fixed places x).toList := by
  rcases lt_trichotomy (rank x) infinityRank with hfinite | hinf | hnan
  · exact lacks_of_forall (Numeral.fixed ((isFinite_iff x).mpr hfinite) places) rfl
  · simp only [fixed, isNaN_eq_false hinf.le, hinf, if_true, if_false, Bool.false_eq_true,
      String.toList_ofList]
    cases isNegative x <;> decide
  · simp only [fixed, (isNaN_iff x).mpr hnan, if_true]
    decide

/-- Two texts with the same mark in them are the same up to the first one. -/
theorem append_cons_inj {c : Char} {front front' back back' : List Char} (h : c ∉ front)
    (h' : c ∉ front') : front ++ c :: back = front' ++ c :: back' ↔ front = front' ∧ back = back' := by
  constructor
  · intro heq
    have hspan : ∀ front back : List Char, c ∉ front →
        (front ++ c :: back).span (· != c) = (front, c :: back) := fun front back hfront =>
      span_append (fun d hd => bne_iff_ne.mpr fun hdc => hfront (hdc ▸ hd)) (by simp)
    have hfronts := hspan front back h
    rw [heq, hspan front' back' h', Prod.mk.injEq, List.cons.injEq] at hfronts
    exact ⟨hfronts.1.symm, hfronts.2.2.symm⟩
  · rintro ⟨rfl, rfl⟩
    rfl

/-! ## Timing lines -/

/-- What a timing line says of two operations in common. -/
structure SameLine (x x' : Operation) : Prop where
  operator : x.operator = x'.operator
  a : SameNumber x.a x'.a
  b : SameNumber x.b x'.b
  result : SameNumber x.result x'.result
  timing : x.timing = x'.timing

theorem toList_line (x : Operation) :
    x.line.toList = x.operator.name.toList ++ ':' :: ' ' :: ((formatNumber x.a).toList ++
      ' ' :: x.operator.symbol :: ' ' :: ((formatNumber x.b).toList ++
        ' ' :: '=' :: ' ' :: ((formatNumber x.result).toList ++
          ' ' :: '(' :: (x.timing.toList ++ " ms)".toList)))) := by
  simp [Operation.line, toString]

theorem lacks_line (x : Operation) : Lacks ['\r', '\n'] x.line.toList := by
  have hname : Lacks ['\r', '\n'] x.operator.name.toList := by cases x.operator <;> decide
  have hsymbol : Lacks ['\r', '\n'] (toString x.operator.symbol).toList := by
    cases x.operator <;> decide
  have hnumber : ∀ y, Lacks ['\r', '\n'] (formatNumber y).toList := fun y c hc =>
    lacks_formatNumber y c (List.mem_cons_of_mem _ hc)
  unfold Operation.line
  simp only [String.toList_append, lacks_append_iff, and_assoc]
  exact ⟨hname, by decide, hnumber x.a, by decide, hsymbol, by decide, hnumber x.b, by decide,
    hnumber x.result, by decide, lacks_fixed 3 x.durationMs, by decide⟩

theorem symbol_injective {o o' : Operator} (h : o.symbol = o'.symbol) : o = o' := by
  have hread := Operator.ofSymbol?_symbol o
  rw [h, Operator.ofSymbol?_symbol] at hread
  exact (Option.some.inj hread).symm

/-- A timing line is cut behind its name, and then at the blank behind each number. -/
theorem line_eq_iff {x x' : Operation} : x.line = x'.line ↔ SameLine x x' := by
  have hblank := blank_notMem_formatNumber
  have hname : ∀ o : Operator, ':' ∉ o.name.toList := fun o => by cases o <;> decide
  rw [← String.toList_inj, toList_line, toList_line, append_cons_inj (hname _) (hname _),
    List.cons.injEq, append_cons_inj (hblank _) (hblank _), List.cons.injEq, List.cons.injEq,
    append_cons_inj (hblank _) (hblank _), List.cons.injEq, List.cons.injEq,
    append_cons_inj (hblank _) (hblank _), List.cons.injEq, List.append_cancel_right_eq]
  simp only [String.toList_inj, formatNumber_eq_iff, true_and]
  constructor
  · rintro ⟨-, ha, hsymbol, hb, hresult, htiming⟩
    exact ⟨symbol_injective hsymbol, ha, hb, hresult, htiming⟩
  · rintro ⟨hoperator, ha, hb, hresult, htiming⟩
    exact ⟨by rw [hoperator], ha, by rw [hoperator], hb, hresult, htiming⟩

/-! ## Lines -/

/-- A text as lines, each of them ended and without an end of a line in it. -/
inductive Lines : List Char → List (List Char) → Prop where
  | nil : Lines [] []
  | cons {line rest : List Char} {lines : List (List Char)} : Lacks ['\r', '\n'] line →
      Lines rest lines → Lines (line ++ lineEnd.toList ++ rest) (line :: lines)

theorem line_append_inj {line line' rest rest' : List Char} (h : Lacks ['\r', '\n'] line)
    (h' : Lacks ['\r', '\n'] line') :
    line ++ lineEnd.toList ++ rest = line' ++ lineEnd.toList ++ rest' ↔
      line = line' ∧ rest = rest' := by
  have hend : lineEnd.toList = ['\r', '\n'] := rfl
  have hmem : '\r' ∈ ['\r', '\n'] := by decide
  rw [hend, List.append_assoc, List.append_assoc, List.cons_append, List.cons_append, List.cons_append,
    List.cons_append, List.nil_append, List.nil_append, append_cons_inj (h _ hmem) (h' _ hmem),
    List.cons.injEq]
  simp only [true_and]

/-- A text is made of lines in one way at most. -/
theorem Lines.unique {cs : List Char} {lines lines' : List (List Char)} (h : Lines cs lines)
    (h' : Lines cs lines') : lines = lines' := by
  induction h generalizing lines' with
  | nil =>
      generalize hcs : ([] : List Char) = cs at h'
      cases h' with
      | nil => rfl
      | cons => simp [lineEnd] at hcs
  | @cons line rest lines hline _ ih =>
      generalize hcs : line ++ lineEnd.toList ++ rest = cs at h'
      cases h' with
      | nil => simp [lineEnd] at hcs
      | cons hline' hrest' =>
          obtain ⟨rfl, rfl⟩ := (line_append_inj hline hline').mp hcs
          rw [ih hrest']

theorem lines_flatMap {lines : List (List Char)} (h : ∀ line ∈ lines, Lacks ['\r', '\n'] line) :
    Lines (lines.flatMap (· ++ lineEnd.toList)) lines := by
  induction lines with
  | nil => exact .nil
  | cons line lines ih =>
      obtain ⟨hline, hlines⟩ := List.forall_mem_cons.mp h
      exact .cons hline (ih hlines)

/-! ## Pages -/

/-- The lines of a page. -/
def pageLines (e : Evaluation) : List (List Char) :=
  ("result = ".toList ++ (formatNumber e.result).toList) :: "operations timings:".toList ::
    e.operations.map fun x => x.line.toList

theorem toList_page (e : Evaluation) :
    e.page.toList = (pageLines e).flatMap (· ++ lineEnd.toList) := by
  simp [Evaluation.page, pageLines, toString, List.flatMap_map, String.toList_join]

theorem lines_page (e : Evaluation) : Lines e.page.toList (pageLines e) := by
  rw [toList_page]
  refine lines_flatMap (List.forall_mem_cons.mpr ⟨?_, List.forall_mem_cons.mpr ⟨by decide, ?_⟩⟩)
  · exact lacks_append_iff.mpr
      ⟨by decide, fun c hc => lacks_formatNumber e.result c (List.mem_cons_of_mem _ hc)⟩
  · exact List.forall_mem_map.mpr fun x _ => lacks_line x

/-- Two pages are one if their numbers are the same but for the sign of zero and the operators and the
times are the same, and only then. -/
theorem page_eq_iff {e e' : Evaluation} :
    e.page = e'.page ↔
      SameNumber e.result e'.result ∧ List.Forall₂ SameLine e.operations e'.operations := by
  have hlines : e.page = e'.page ↔ pageLines e = pageLines e' := by
    constructor
    · intro h
      exact (lines_page e).unique (h ▸ lines_page e')
    · intro h
      rw [← String.toList_inj, toList_page, toList_page, h]
  have hoperations : e.operations.map (fun x => x.line.toList) =
      e'.operations.map (fun x => x.line.toList) ↔
        List.Forall₂ SameLine e.operations e'.operations := by
    rw [← List.forall₂_eq_eq_eq, List.forall₂_map_left_iff, List.forall₂_map_right_iff]
    simp only [String.toList_inj, line_eq_iff]
  rw [hlines, pageLines, pageLines, List.cons.injEq, List.cons.injEq, List.append_cancel_left_eq,
    String.toList_inj, formatNumber_eq_iff, hoperations]
  simp only [true_and]

/-- A page can be decoded: it is two lines and one for each operation, in one way only, and another
evaluation with this page has the same operators, times and numbers, but for the sign of zero. -/
theorem page_decodes (e : Evaluation) :
    (∃ lines, lines.length = 2 + e.operations.length ∧
      ∀ lines', Lines e.page.toList lines' ↔ lines' = lines) ∧
    ∀ e' : Evaluation, e.page = e'.page ↔
      SameNumber e.result e'.result ∧ List.Forall₂ SameLine e.operations e'.operations := by
  refine ⟨⟨pageLines e, ?_, fun lines' => ?_⟩, fun e' => page_eq_iff⟩
  · rw [pageLines, List.length_cons, List.length_cons, List.length_map]
    omega
  · constructor
    · exact fun h => h.unique (lines_page e)
    · rintro rfl
      exact lines_page e

end ExprGateway.Http
