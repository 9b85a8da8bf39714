import ExprGateway.Proofs.Expression.Conservation

/-!
# What gets in

Two guards stand in front of every evaluation.  Blanks are dropped before the pieces are cut, so no piece
has a blank in it (`Token.mem_of_mem_pieces`), and a piece becomes a number only if this is finite.  Conversion
keeps the numbers (`Arranged.keeps`).  So the numbers of an expression that compiles are finite
(`finite_of_compile`), and a piece that is quoted because it is no token has no line end
(`piece_of_compile`).
-/

namespace ExprGateway

/-! ## Tokens -/

theorem isFinite_of_readFinite? {cs : List Char} {x : Float} (h : readFinite? cs = some x) :
    x.isFinite = true := (Option.filter_eq_some_iff.mp h).2

theorem isFinite_of_ofPiece? {p : List Char} {x : Float} (h : Token.ofPiece? p = some (.number x)) :
    x.isFinite = true := by
  rcases Token.ofPiece?_cases h with ⟨c, -, hc⟩ | ⟨y, hy, hxy⟩
  · unfold Token.ofSymbol? at hc
    split at hc
    · cases hc
    · cases hc
    · obtain ⟨o, -, ho⟩ := Option.map_eq_some_iff.mp hc
      cases ho
  · obtain rfl := Token.number.inj hxy
    exact isFinite_of_readFinite? hy

theorem exists_error_of_mapM {α β ε : Type} {f : α → Except ε β} {e : ε} :
    ∀ {xs : List α}, xs.mapM f = .error e → ∃ x ∈ xs, f x = .error e := by
  intro xs
  induction xs with
  | nil => exact fun h => (nomatch h)
  | cons x xs ih =>
      intro h
      rw [List.mapM_cons] at h
      cases hx : f x with
      | error e' =>
          rw [hx] at h
          obtain rfl := Except.error.inj h
          exact ⟨x, List.mem_cons_self, hx⟩
      | ok z =>
          cases hxs : xs.mapM f with
          | ok zs => rw [hx, hxs] at h; cases h
          | error e' =>
              rw [hx, hxs] at h
              obtain rfl := Except.error.inj h
              obtain ⟨w, hw, hfw⟩ := ih hxs
              exact ⟨w, List.mem_cons_of_mem x hw, hfw⟩

theorem finite_of_tokenize {expression : String} {ts : List Token}
    (h : tokenize expression = .ok ts) {x : Float} (hx : .number x ∈ ts) : x.isFinite = true := by
  obtain ⟨p, -, hp⟩ := exists_piece_of_token h hx
  exact isFinite_of_ofPiece? hp

/-- What is quoted of an expression has no blanks in it. -/
theorem piece_of_tokenize {expression : String} {defect : Malformed}
    (h : tokenize expression = .error defect) :
    ∃ piece index, defect = .invalidToken piece index ∧ ∀ c ∈ piece.toList, isBlank c = false := by
  obtain ⟨⟨p, i⟩, hp, hdefect⟩ := exists_error_of_mapM h
  refine ⟨String.ofList p, i, ?_, fun c hc => ?_⟩
  · rw [Token.ofPieceAt] at hdefect
    split at hdefect
    · cases hdefect
    · exact (Except.error.inj hdefect).symm
  · rw [String.toList_ofList] at hc
    exact (Token.mem_kept.mp (Token.mem_of_mem_pieces (List.fst_mem_of_mem_zipIdx hp) hc)).2

/-! ## Compiled expressions -/

/-- The numbers of an expression that compiles are finite. -/
theorem finite_of_compile {expression : String} {p : Postfix} (h : compile expression = .ok p)
    {x : Float} (hx : .number x ∈ p) : x.isFinite = true := by
  obtain ⟨ts, ht, hconv⟩ := compile_eq_ok_iff.mp h
  have hnumbers := (Postfix.ofInfix_eq_ok_iff.mp hconv).1.keeps.numbers
  have hmem : x ∈ Postfix.numbers p := Postfix.mem_numbers.mpr hx
  rw [hnumbers] at hmem
  exact finite_of_tokenize ht (Postfix.mem_numbers.mp hmem)

/-- A result that is no complaint about a piece. -/
def Structural {α : Type} (x : Except Malformed α) : Prop :=
  ∀ piece index, x ≠ .error (.invalidToken piece index)

namespace Structural

variable {α β : Type}

theorem ok (a : α) : Structural (.ok a : Except Malformed α) := fun _ _ h => nomatch h

theorem bind {x : Except Malformed α} {f : α → Except Malformed β} (hx : Structural x)
    (hf : ∀ a, Structural (f a)) : Structural (x >>= f) := by
  cases x with
  | error e => exact fun piece index h => hx piece index (congrArg Except.error (Except.error.inj h))
  | ok a => exact hf a

theorem foldlM {f : β → α → Except Malformed β} (hf : ∀ b x, Structural (f b x)) :
    ∀ (xs : List α) (b : β), Structural (xs.foldlM f b) := by
  intro xs
  induction xs with
  | nil => exact fun b => ok b
  | cons x xs ih =>
      intro b
      rw [List.foldlM_cons]
      exact (hf b x).bind ih

theorem step (y : Postfix.Yard) (t : Token) : Structural (y.step t) := by
  cases t with
  | number => exact ok _
  | operator => exact ok _
  | leftParen => exact ok _
  | rightParen =>
      intro piece index h
      obtain ⟨output, waiting, outer⟩ := y
      cases outer <;> cases h

theorem finish (y : Postfix.Yard) : Structural y.finish := by
  intro piece index h
  obtain ⟨output, waiting, outer⟩ := y
  cases outer <;> cases h

theorem depthAfter (depth : Nat) (t : Token) : Structural (Postfix.depthAfter depth t) := by
  intro piece index h
  cases t with
  | number => cases h
  | operator o =>
      simp only [Postfix.depthAfter] at h
      split_ifs at h
      cases h
  | leftParen => cases h
  | rightParen => cases h

theorem checkDepth : ∀ depth : Nat, Structural (Postfix.checkDepth depth)
  | 0 => fun _ _ h => nomatch h
  | 1 => ok ()
  | _ + 2 => fun _ _ h => nomatch h

/-- Conversion has nothing to say of pieces: its tokens are tokens. -/
theorem ofInfix (ts : List Token) : Structural (Postfix.ofInfix ts) := by
  refine (foldlM step ts _).bind fun y => (finish y).bind fun p => ?_
  exact ((foldlM depthAfter p 0).bind checkDepth).bind fun _ => ok p

end Structural

/-- A piece that an expression is refused for has no blanks in it. -/
theorem piece_of_compile {expression piece : String} {index : Nat}
    (h : compile expression = .error (.invalidToken piece index)) :
    ∀ c ∈ piece.toList, isBlank c = false := by
  cases ht : tokenize expression with
  | error defect =>
      obtain ⟨piece', index', rfl, hpiece⟩ := piece_of_tokenize ht
      rw [compile, ht] at h
      cases Except.error.inj h
      exact hpiece
  | ok ts =>
      rw [compile, ht] at h
      exact absurd h (Structural.ofInfix ts piece index)

end ExprGateway
