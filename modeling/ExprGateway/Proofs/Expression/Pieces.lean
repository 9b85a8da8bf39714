import ExprGateway.Expression.Token
import Mathlib.Data.List.Forall2

/-!
# Pieces of an expression

An expression is cut at its symbols, once the blanks are gone.  Cutting moves no character
(`flatten_pieces`) and leaves nothing to cut: every piece is one symbol, or a run of characters of which
none is a symbol (`isPiece_of_mem_pieces`).

An expression has tokens exactly if every piece writes one, and its tokens are then those of its pieces, one
for each and in their order (`tokenize_eq_ok_iff`).  So what tokens say of an expression can be read off its
characters.
-/

namespace ExprGateway

theorem eq_ok_of_toOption {ε α : Type} {x : Except ε α} {a : α} (h : x.toOption = some a) :
    x = .ok a := by
  cases x with
  | error e => cases h
  | ok b => exact congrArg Except.ok (Option.some.inj h)

/-- A list is worked through without an error exactly if every element has its result. -/
theorem mapM_eq_ok_iff {α β ε : Type} {f : α → Except ε β} :
    ∀ {xs : List α} {ys : List β},
      xs.mapM f = .ok ys ↔ List.Forall₂ (fun x y => f x = .ok y) xs ys := by
  intro xs
  induction xs with
  | nil =>
      intro ys
      rw [List.mapM_nil, List.forall₂_nil_left_iff]
      constructor
      · intro h
        exact (Except.ok.inj h).symm
      · rintro rfl
        rfl
  | cons x xs ih =>
      intro ys
      rw [List.mapM_cons, List.forall₂_cons_left_iff]
      constructor
      · intro h
        cases hx : f x with
        | error e => rw [hx] at h; cases h
        | ok y =>
            cases hxs : xs.mapM f with
            | error e => rw [hx, hxs] at h; cases h
            | ok zs =>
                rw [hx, hxs] at h
                exact ⟨y, zs, rfl, ih.mp hxs, (Except.ok.inj h).symm⟩
      · rintro ⟨y, zs, hy, hzs, rfl⟩
        rw [hy, ih.mpr hzs]
        rfl

theorem mapM_cons_eq_error_iff {α β ε : Type} {f : α → Except ε β} {x : α} {xs : List α} {e : ε} :
    (x :: xs).mapM f = .error e ↔ f x = .error e ∨ (∃ y, f x = .ok y) ∧ xs.mapM f = .error e := by
  rw [List.mapM_cons]
  cases hx : f x with
  | error e' =>
      constructor
      · intro h
        exact .inl (congrArg _ (Except.error.inj h))
      · rintro (h | ⟨⟨y, hy⟩, -⟩)
        · exact congrArg _ (Except.error.inj h)
        · cases hy
  | ok y =>
      cases hxs : xs.mapM f with
      | error e' =>
          constructor
          · intro h
            exact .inr ⟨⟨y, rfl⟩, congrArg _ (Except.error.inj h)⟩
          · rintro (h | ⟨-, h⟩)
            · cases h
            · exact congrArg _ (Except.error.inj h)
      | ok ys => simp [pure, Except.pure, bind, Except.bind]

/-- The error is that of the first element without a result. -/
theorem mapM_eq_error_iff {α β ε : Type} {f : α → Except ε β} {xs : List α} {e : ε} :
    xs.mapM f = .error e ↔
      ∃ before x after, xs = before ++ x :: after ∧ (∀ y ∈ before, ∃ z, f y = .ok z) ∧
        f x = .error e := by
  constructor
  · intro h
    induction xs with
    | nil => cases h
    | cons x xs ih =>
        rcases mapM_cons_eq_error_iff.mp h with hx | ⟨hx, hxs⟩
        · exact ⟨[], x, xs, rfl, fun y hy => (nomatch hy), hx⟩
        · obtain ⟨before, y, after, rfl, hbefore, hy⟩ := ih hxs
          exact ⟨x :: before, y, after, rfl, List.forall_mem_cons.mpr ⟨hx, hbefore⟩, hy⟩
  · rintro ⟨before, x, after, rfl, hbefore, hx⟩
    induction before with
    | nil => exact mapM_cons_eq_error_iff.mpr (.inl hx)
    | cons y before ih =>
        obtain ⟨hy, hbefore⟩ := List.forall_mem_cons.mp hbefore
        exact mapM_cons_eq_error_iff.mpr (.inr ⟨hy, ih hbefore⟩)

namespace Token

/-! ## What is cut -/

theorem flatten_consPiece (c : Char) (ps : List (List Char)) :
    (consPiece c ps).flatten = c :: ps.flatten := by
  cases ps with
  | nil => rfl
  | cons p ps =>
      rw [consPiece]
      split <;> rfl

/-- Cutting loses no characters and makes none. -/
theorem flatten_pieces (cs : List Char) : (pieces cs).flatten = cs := by
  induction cs with
  | nil => rfl
  | cons c cs ih =>
      rw [pieces, List.foldr_cons, flatten_consPiece]
      exact congrArg (c :: ·) ih

theorem mem_of_mem_pieces {cs p : List Char} {d : Char} (hp : p ∈ pieces cs) (hd : d ∈ p) : d ∈ cs := by
  rw [← flatten_pieces cs]
  exact List.mem_flatten.mpr ⟨p, hp, hd⟩

/-- One symbol, or a run of characters of which none is a symbol. -/
inductive IsPiece : List Char → Prop where
  | symbol {c : Char} : isSymbol c = true → IsPiece [c]
  | run {p : List Char} : p ≠ [] → (∀ c ∈ p, isSymbol c = false) → IsPiece p

theorem isPiece_singleton (c : Char) : IsPiece [c] := by
  cases hc : isSymbol c with
  | true => exact .symbol hc
  | false => exact .run (List.cons_ne_nil c []) (List.forall_mem_singleton.mpr hc)

/-- A character in front of pieces is put into a run, or stands alone. -/
theorem isPiece_of_mem_consPiece {c : Char} {ps : List (List Char)} (h : ∀ p ∈ ps, IsPiece p) :
    ∀ p ∈ consPiece c ps, IsPiece p := by
  cases ps with
  | nil => exact List.forall_mem_singleton.mpr (isPiece_singleton c)
  | cons q ps =>
      obtain ⟨hq, hps⟩ := List.forall_mem_cons.mp h
      rw [consPiece]
      split_ifs with hcut
      · exact List.forall_mem_cons.mpr ⟨isPiece_singleton c, h⟩
      · refine List.forall_mem_cons.mpr ⟨?_, hps⟩
        rw [Bool.or_eq_true, not_or, Bool.not_eq_true, Bool.not_eq_true] at hcut
        cases hq with
        | symbol hd =>
            have hhead := hcut.2
            rw [List.head?_cons, Option.any_some, hd] at hhead
            cases hhead
        | run _ hrun =>
            exact .run (List.cons_ne_nil c q) (List.forall_mem_cons.mpr ⟨hcut.1, hrun⟩)

theorem isPiece_of_mem_pieces {cs : List Char} : ∀ p ∈ pieces cs, IsPiece p := by
  induction cs with
  | nil => exact fun p hp => nomatch hp
  | cons c cs ih => exact isPiece_of_mem_consPiece ih

/-! ## What pieces write -/

/-- A token is written by a symbol or is a finite number. -/
theorem ofPiece?_cases {p : List Char} {t : Token} (h : ofPiece? p = some t) :
    (∃ c, p = [c] ∧ ofSymbol? c = some t) ∨ ∃ x, readFinite? p = some x ∧ t = .number x := by
  have hread : (readFinite? p).map number = some t → ∃ x, readFinite? p = some x ∧ t = .number x := by
    intro hp
    obtain ⟨x, hx, hxt⟩ := Option.map_eq_some_iff.mp hp
    exact ⟨x, hx, hxt.symm⟩
  unfold ofPiece? at h
  split at h
  next c =>
    rcases Option.or_eq_some_iff.mp h with hs | ⟨-, hr⟩
    · exact .inl ⟨c, rfl, hs⟩
    · exact .inr (hread hr)
  next => exact .inr (hread h)

/-- A symbol writes its token. -/
theorem ofPiece?_of_isSymbol {c : Char} (h : isSymbol c = true) : ofPiece? [c] = ofSymbol? c := by
  obtain ⟨t, ht⟩ := Option.isSome_iff_exists.mp h
  rw [ofPiece?, ht, Option.some_or]

/-- A run writes a number, or nothing. -/
theorem ofPiece?_of_run {p : List Char} (h : ∀ c ∈ p, isSymbol c = false) :
    ofPiece? p = (readFinite? p).map number := by
  unfold ofPiece?
  split
  next c =>
    have hnone : ofSymbol? c = none := by simpa [isSymbol] using h c List.mem_cons_self
    rw [hnone, Option.none_or]
  next => rfl

theorem ofPieceAt_eq_error_iff {p : List Char × Nat} {d : Malformed} :
    ofPieceAt p = .error d ↔ ofPiece? p.1 = none ∧ d = .invalidToken (String.ofList p.1) p.2 := by
  rw [ofPieceAt]
  cases ofPiece? p.1 with
  | none => exact ⟨fun h => ⟨rfl, (Except.error.inj h).symm⟩, fun h => congrArg _ h.2.symm⟩
  | some u => exact ⟨fun h => (nomatch h), fun h => (nomatch h.1)⟩

theorem ofPieceAt_eq_ok_iff {p : List Char × Nat} {t : Token} :
    ofPieceAt p = .ok t ↔ ofPiece? p.1 = some t := by
  rw [ofPieceAt]
  cases ofPiece? p.1 with
  | none => exact ⟨fun h => (nomatch h), fun h => (nomatch h)⟩
  | some u => exact ⟨fun h => congrArg some (Except.ok.inj h), fun h => congrArg _ (Option.some.inj h)⟩

/-- What is left of an expression without its blanks. -/
def kept (expression : String) : List Char := expression.toList.filter fun c => !isBlank c

theorem mem_kept {expression : String} {c : Char} :
    c ∈ kept expression ↔ c ∈ expression.toList ∧ isBlank c = false := by
  rw [kept, List.mem_filter, Bool.not_eq_true']

end Token

open Token

section Tokenize

variable {expression : String} {ts : List Token}

/-- The tokens of an expression are those of its pieces. -/
theorem tokenize_eq_ok_iff :
    tokenize expression = .ok ts ↔
      List.Forall₂ (fun p t => ofPiece? p = some t) (pieces (kept expression)) ts := by
  have hzip : (pieces (kept expression)).zipIdx.map Prod.fst = pieces (kept expression) :=
    List.zipIdx_map_fst 0 _
  show (pieces (kept expression)).zipIdx.mapM ofPieceAt = .ok ts ↔ _
  rw [mapM_eq_ok_iff, ← hzip, List.forall₂_map_left_iff, hzip]
  simp only [ofPieceAt_eq_ok_iff]

/-- The error of an expression is that of its first piece without a token. -/
theorem tokenize_eq_error_iff {d : Malformed} :
    tokenize expression = .error d ↔
      ∃ before p after, pieces (kept expression) = before ++ p :: after ∧
        (∀ q ∈ before, ∃ t, ofPiece? q = some t) ∧ ofPiece? p = none ∧
        d = .invalidToken (String.ofList p) before.length := by
  show (pieces (kept expression)).zipIdx.mapM ofPieceAt = .error d ↔ _
  rw [mapM_eq_error_iff]
  simp only [ofPieceAt_eq_ok_iff, ofPieceAt_eq_error_iff]
  constructor
  · rintro ⟨front, ⟨p, i⟩, back, hzip, hfront, hp, hd⟩
    obtain ⟨before, rest, hpieces, rfl, hrest⟩ := List.zipIdx_eq_append_iff.mp hzip
    obtain ⟨q, after, rfl, hq, -⟩ := List.zipIdx_eq_cons_iff.mp hrest.symm
    obtain ⟨rfl, rfl⟩ := Prod.mk.inj hq
    rw [Nat.zero_add] at hd
    refine ⟨before, p, after, hpieces, fun q hq => ?_, hp, hd⟩
    obtain ⟨x, hx, rfl⟩ := List.mem_map.mp ((List.zipIdx_map_fst 0 before).symm ▸ hq)
    exact hfront x hx
  · rintro ⟨before, p, after, hpieces, hbefore, hp, rfl⟩
    refine ⟨before.zipIdx, (p, before.length), after.zipIdx (before.length + 1), ?_, fun q hq => ?_, hp,
      rfl⟩
    · rw [hpieces, List.zipIdx_append, List.zipIdx_cons, Nat.zero_add]
    · exact hbefore q.1 (List.fst_mem_of_mem_zipIdx hq)

/-- Every token is written by a piece. -/
theorem exists_piece_of_token (h : tokenize expression = .ok ts) {t : Token} (ht : t ∈ ts) :
    ∃ p ∈ pieces (kept expression), ofPiece? p = some t := by
  have hall := tokenize_eq_ok_iff.mp h
  obtain ⟨i, hi, rfl⟩ := List.mem_iff_getElem.mp ht
  have hi' : i < (pieces (kept expression)).length := hall.length_eq ▸ hi
  exact ⟨_, List.getElem_mem hi', hall.get hi' hi⟩

/-- Every piece writes a token. -/
theorem exists_token_of_piece (h : tokenize expression = .ok ts) {p : List Char}
    (hp : p ∈ pieces (kept expression)) : ∃ t ∈ ts, ofPiece? p = some t := by
  have hall := tokenize_eq_ok_iff.mp h
  obtain ⟨i, hi, rfl⟩ := List.mem_iff_getElem.mp hp
  have hi' : i < ts.length := hall.length_eq ▸ hi
  exact ⟨_, List.getElem_mem hi', hall.get hi hi'⟩

end Tokenize

end ExprGateway
