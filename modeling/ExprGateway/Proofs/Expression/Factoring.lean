import ExprGateway.Proofs.Expression.Pieces
import Mathlib.Data.List.Chain

/-!
# The one way to cut a text

A text is put together of symbols and of runs of other characters, and if no two runs stand side by side
there is only one way to do so (`factored_iff`).  That makes the pieces of a text easy to find: whatever
factors it is what cutting gives.  So a text is cut at every symbol on its own (`pieces_append_symbol`),
and the tokens on either side of a symbol are those of the two sides (`tokenize_around`).

Blanks are gone before anything is cut, so they can stand anywhere.
-/

namespace ExprGateway

namespace Token

/-- Of two pieces side by side one is a symbol: no run could be longer. -/
def Parted (ps : List (List Char)) : Prop :=
  ps.IsChain fun p q => p.any isSymbol = true ∨ q.any isSymbol = true

/-- A text as symbols and runs of other characters, none of the runs next to another. -/
structure Factored (cs : List Char) (ps : List (List Char)) : Prop where
  flatten : ps.flatten = cs
  piece : ∀ p ∈ ps, IsPiece p
  parted : Parted ps

/-! ## Symbols -/

theorem ofSymbol?_operator (o : Operator) : ofSymbol? o.symbol = some (.operator o) := by
  cases o <;> rfl

theorem isSymbol_iff {c : Char} : isSymbol c = true ↔ c ∈ ['+', '-', '*', '/', '(', ')'] := by
  simp only [isSymbol, List.mem_cons, List.not_mem_nil, or_false]
  constructor
  · intro h
    obtain ⟨t, ht⟩ := Option.isSome_iff_exists.mp h
    unfold ofSymbol? Operator.ofSymbol? at ht
    split at ht
    · simp
    · simp
    · split at ht <;> simp_all
  · rintro (rfl | rfl | rfl | rfl | rfl | rfl) <;> rfl

/-! ## Cutting finds what factors -/

theorem any_isSymbol_of_run {p : List Char} (h : ∀ c ∈ p, isSymbol c = false) :
    p.any isSymbol = false := by
  simpa using h

/-- A piece with a symbol in it is this symbol, so its first character shows what it is. -/
theorem IsPiece.any_head? {p : List Char} (h : IsPiece p) :
    p.head?.any isSymbol = p.any isSymbol := by
  cases h with
  | symbol hc => simp [hc]
  | @run p hne hrun =>
      rw [any_isSymbol_of_run hrun]
      cases p with
      | nil => rfl
      | cons c p => exact hrun c List.mem_cons_self

/-- In front of a symbol a character begins a piece. -/
theorem consPiece_of_isSymbol_head {c : Char} {ps : List (List Char)}
    (h : ∀ q ∈ ps.head?, q.head?.any isSymbol = true) : consPiece c ps = [c] :: ps := by
  cases ps with
  | nil => rfl
  | cons q ps => rw [consPiece, h q rfl, Bool.or_true, if_pos rfl]

theorem foldr_consPiece_run {p : List Char} {ps : List (List Char)} (hne : p ≠ [])
    (hrun : ∀ c ∈ p, isSymbol c = false) (hps : ∀ q ∈ ps.head?, q.head?.any isSymbol = true) :
    p.foldr consPiece ps = p :: ps := by
  induction p with
  | nil => exact absurd rfl hne
  | cons c p ih =>
      obtain ⟨hc, hrun⟩ := List.forall_mem_cons.mp hrun
      cases p with
      | nil => exact consPiece_of_isSymbol_head hps
      | cons d p =>
          have hd : isSymbol d = false := hrun d List.mem_cons_self
          rw [List.foldr_cons, ih (List.cons_ne_nil d p) hrun, consPiece, if_neg (by simp [hc, hd])]

/-- A piece is put in front of pieces as it is, unless it is a run and another run follows. -/
theorem foldr_consPiece {p : List Char} {ps : List (List Char)} (hp : IsPiece p)
    (hps : ∀ q ∈ ps.head?, IsPiece q ∧ (p.any isSymbol = true ∨ q.any isSymbol = true)) :
    p.foldr consPiece ps = p :: ps := by
  cases hp with
  | @symbol c hc =>
      cases ps with
      | nil => rfl
      | cons q ps => rw [List.foldr_cons, List.foldr_nil, consPiece, hc, Bool.true_or, if_pos rfl]
  | run hne hrun =>
      refine foldr_consPiece_run hne hrun fun q hq => ?_
      obtain ⟨hpiece, hor⟩ := hps q hq
      rw [any_isSymbol_of_run hrun] at hor
      exact hpiece.any_head?.trans (hor.resolve_left Bool.false_ne_true)

theorem pieces_flatten {ps : List (List Char)} (hpiece : ∀ p ∈ ps, IsPiece p)
    (hparted : Parted ps) : pieces ps.flatten = ps := by
  induction ps with
  | nil => rfl
  | cons p ps ih =>
      obtain ⟨hp, hps⟩ := List.forall_mem_cons.mp hpiece
      obtain ⟨hhead, htail⟩ := List.isChain_cons.mp hparted
      rw [List.flatten_cons, pieces, List.foldr_append]
      show p.foldr consPiece (pieces ps.flatten) = p :: ps
      rw [ih hps htail]
      exact foldr_consPiece hp fun q hq => ⟨hps q (List.mem_of_mem_head? hq), hhead q hq⟩

/-- A character is put into a run only if that is no symbol, and then neither of them is one. -/
theorem parted_consPiece {c : Char} {ps : List (List Char)} (hpiece : ∀ p ∈ ps, IsPiece p)
    (hparted : Parted ps) : Parted (consPiece c ps) := by
  cases ps with
  | nil => exact .singleton _
  | cons q ps =>
      have hq := (hpiece q List.mem_cons_self).any_head?
      rw [consPiece]
      split_ifs with hcut
      · refine List.isChain_cons_cons.mpr ⟨?_, hparted⟩
        simpa [hq] using hcut
      · obtain ⟨hhead, htail⟩ := List.isChain_cons.mp hparted
        refine List.isChain_cons.mpr ⟨fun r hr => (hhead r hr).imp_left fun h => ?_, htail⟩
        rw [List.any_cons, h, Bool.or_true]

theorem parted_pieces (cs : List Char) : Parted (pieces cs) := by
  induction cs with
  | nil => exact .nil
  | cons c cs ih => exact parted_consPiece isPiece_of_mem_pieces ih

/-- A text factors in one way, and that is how it is cut. -/
theorem factored_iff {cs : List Char} {ps : List (List Char)} : Factored cs ps ↔ ps = pieces cs := by
  constructor
  · rintro ⟨rfl, hpiece, hparted⟩
    exact (pieces_flatten hpiece hparted).symm
  · rintro rfl
    exact ⟨flatten_pieces cs, isPiece_of_mem_pieces, parted_pieces cs⟩

/-- A symbol is cut from whatever stands around it. -/
theorem pieces_append_symbol {c : Char} (hc : isSymbol c = true) (cs ds : List Char) :
    pieces (cs ++ c :: ds) = pieces cs ++ [c] :: pieces ds := by
  refine (factored_iff.mp ⟨?_, ?_, ?_⟩).symm
  · simp [flatten_pieces]
  · intro p hp
    rcases List.mem_append.mp hp with hp | hp
    · exact isPiece_of_mem_pieces p hp
    · rcases List.mem_cons.mp hp with rfl | hp
      · exact .symbol hc
      · exact isPiece_of_mem_pieces p hp
  · have hsymbol : [c].any isSymbol = true := by simpa using hc
    refine List.isChain_append.mpr ⟨parted_pieces cs, ?_, ?_⟩
    · exact List.isChain_cons.mpr ⟨fun q _ => .inl hsymbol, parted_pieces ds⟩
    · intro p _ q hq
      obtain rfl := Option.some.inj hq
      exact .inr hsymbol

/-! ## Blanks -/

theorem isBlank_of_isSymbol {c : Char} (h : isSymbol c = true) : isBlank c = false := by
  have hmem := isSymbol_iff.mp h
  simp only [List.mem_cons, List.not_mem_nil, or_false] at hmem
  rcases hmem with rfl | rfl | rfl | rfl | rfl | rfl <;> rfl

@[simp] theorem kept_append (a b : String) : kept (a ++ b) = kept a ++ kept b := by
  simp [kept]

theorem kept_singleton {c : Char} (h : isBlank c = false) : kept (String.singleton c) = [c] := by
  simp [kept, h]

end Token

open Token

/-- Only what is not blank counts. -/
theorem tokenize_congr {a b : String} (h : kept a = kept b) : tokenize a = tokenize b := by
  unfold kept at h
  rw [tokenize, tokenize, h]

/-- The tokens on either side of a symbol are those of the two sides. -/
theorem tokenize_around {a b : String} {ts us : List Token} {c : Char} {t : Token}
    (ha : tokenize a = .ok ts) (hc : ofSymbol? c = some t) (hb : tokenize b = .ok us) :
    tokenize (a ++ String.singleton c ++ b) = .ok (ts ++ t :: us) := by
  have hsymbol : isSymbol c = true := Option.isSome_iff_exists.mpr ⟨t, hc⟩
  rw [tokenize_eq_ok_iff] at ha hb ⊢
  rw [kept_append, kept_append, kept_singleton (isBlank_of_isSymbol hsymbol), List.append_assoc,
    List.singleton_append, pieces_append_symbol hsymbol]
  refine List.rel_append ha (.cons ?_ hb)
  rw [ofPiece?_of_isSymbol hsymbol, hc]

end ExprGateway
