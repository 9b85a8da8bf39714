import ExprGateway.Json.Reader
import ExprGateway.Proofs.Number.Canonical

/-!
# JSON that is written is read back

The reader takes a text apart without looking back, so each part of a value is read back wherever it
stands, with the rest of the text left over: a string behind its quote (`readString?_quote`), a number
in front of a character that no number has (`readDigits?_append`), and then a value of any shape, by
induction on it (`readValue?_compactChars`).  The fuel is twice the length of the text, and every step of
the reader is paid for by a character.

Escapes are the one place where the reader looks ahead.  Two units of sixteen bits may be one character,
so a unit is read with the one behind it (`readString?_escaped`).

A float is told from a whole number by its mark, a point or an exponent, which every float has in this
style (`marked_write`).  A number that is not finite is written as `null`, and read as such (`written`).
-/

namespace ExprGateway.Json

open Decimal

/-! ## Strings -/

/-- What a character becomes in a string. -/
inductive Escaped (c : Char) : List Char → Prop where
  | letter {l : Char} : l ≠ 'u' → unescape? l = some c → Escaped c ['\\', l]
  | unit : c.toNat < 0x20 → Escaped c ('\\' :: 'u' :: '0' :: '0' :: hexByte c.toNat)
  | plain : c ≠ '"' → c ≠ '\\' → 0x20 ≤ c.toNat → Escaped c [c]

theorem escaped_escape (c : Char) : Escaped c (escape c) := by
  unfold escape
  split
  case h_8 hquote hbackslash _ _ _ _ _ =>
    split_ifs with h
    · exact .unit h
    · exact .plain hquote hbackslash (Nat.not_lt.mp h)
  all_goals exact .letter (by decide) rfl

/-- A unit of sixteen bits begins here. -/
def BeginsUnit (cs : List Char) : Prop := ∃ rest, cs = '\\' :: 'u' :: rest

/-- A character that is written as a unit. -/
def IsUnit (c : Char) : Prop :=
  c.toNat < 0x20 ∧ escape c = '\\' :: 'u' :: '0' :: '0' :: hexByte c.toNat

theorem isUnit_of_beginsUnit {c : Char} {rest : List Char} (h : BeginsUnit (escape c ++ rest)) :
    IsUnit c := by
  obtain ⟨rest', hbegin⟩ := h
  have hescaped := escaped_escape c
  generalize hes : escape c = es at hescaped hbegin
  cases hescaped with
  | letter hl _ => exact absurd (List.cons.inj (List.cons.inj hbegin).2).1 hl
  | unit hc => exact ⟨hc, hes⟩
  | plain _ hbackslash _ => exact absurd (List.cons.inj hbegin).1 hbackslash

theorem not_beginsUnit_quote {rest : List Char} : ¬ BeginsUnit ('"' :: rest) := by
  rintro ⟨rest', hbegin⟩
  cases hbegin

theorem number?_hexByte {n : Nat} (h : n < 0x20) :
    Digits.number? 16 ('0' :: '0' :: hexByte n) = some n := by
  revert n
  decide

theorem ofUnits?_of_lt {c : Char} (h : c.toNat < 0x20) : ofUnits? c.toNat none = some c := by
  rw [ofUnits?, if_pos (by omega), Char.ofNat_toNat]

section Strings

variable (done rest : List Char)

theorem readString?_letter {c l : Char} (hl : l ≠ 'u') (h : unescape? l = some c) :
    readString? done ('\\' :: l :: rest) = readString? (c :: done) rest := by
  rw [readString?]
  · rw [h]
  · intros; simp_all
  · intros; simp_all

theorem readString?_unit {c : Char} (hc : c.toNat < 0x20) (hrest : ¬ BeginsUnit rest) :
    readString? done ('\\' :: 'u' :: '0' :: '0' :: hexByte c.toNat ++ rest) =
      readString? (c :: done) rest := by
  have hnumber := number?_hexByte hc
  simp only [hexByte, List.cons_append, List.nil_append] at hnumber ⊢
  rw [readString?]
  · simp only [hnumber, Option.bind_some, ofUnits?_of_lt hc]
  · rintro e f g h rest' rfl
    exact hrest ⟨_, rfl⟩

theorem readString?_unit_unit {c d : Char} (hc : c.toNat < 0x20) (hd : d.toNat < 0x20) :
    readString? done ('\\' :: 'u' :: '0' :: '0' :: hexByte c.toNat ++
      ('\\' :: 'u' :: '0' :: '0' :: hexByte d.toNat ++ rest)) = readString? (d :: c :: done) rest := by
  have hnumber := number?_hexByte hc
  have hnumber' := number?_hexByte hd
  simp only [hexByte, List.cons_append, List.nil_append] at hnumber hnumber' ⊢
  rw [readString?]
  simp only [hnumber, hnumber', ofUnits?_of_lt hc, ofUnits?_of_lt hd]

theorem readString?_plain {c : Char} (hquote : c ≠ '"') (hbackslash : c ≠ '\\')
    (hc : 0x20 ≤ c.toNat) : readString? done (c :: rest) = readString? (c :: done) rest := by
  rw [readString?]
  · rw [if_neg (Nat.not_lt.mpr hc)]
  all_goals simp_all

/-- Any escape is read as its character, unless it is the first of two units in a row. -/
theorem readString?_escape {c : Char} (h : ¬ (IsUnit c ∧ BeginsUnit rest)) :
    readString? done (escape c ++ rest) = readString? (c :: done) rest := by
  have hescaped := escaped_escape c
  generalize hes : escape c = es at hescaped
  cases hescaped with
  | letter hl hc => exact readString?_letter done rest hl hc
  | unit hc => exact readString?_unit done rest hc fun hrest => h ⟨⟨hc, hes⟩, hrest⟩
  | plain hquote hbackslash hc => exact readString?_plain done rest hquote hbackslash hc

end Strings

/-- A string is read back behind its opening quote.  Two units in a row are read in one step, so the
induction goes two characters at a time. -/
theorem readString?_escaped : ∀ (done cs rest : List Char),
    readString? done (cs.flatMap escape ++ '"' :: rest) =
      some (String.ofList (done.reverse ++ cs), rest)
  | done, [], rest => by rw [List.flatMap_nil, List.nil_append, readString?, List.append_nil]
  | done, [c], rest => by
      have hend := readString?_escaped (c :: done) [] rest
      rw [List.flatMap_nil, List.nil_append] at hend
      rw [List.flatMap_singleton, readString?_escape done _ (fun h => not_beginsUnit_quote h.2), hend,
        List.reverse_cons, List.append_nil]
  | done, c :: d :: cs, rest => by
      rw [List.flatMap_cons, List.append_assoc]
      by_cases hpair : IsUnit c ∧ IsUnit d
      · obtain ⟨⟨hc, hc'⟩, hd, hd'⟩ := hpair
        rw [List.flatMap_cons, hc', hd', List.append_assoc, readString?_unit_unit done _ hc hd,
          readString?_escaped (d :: c :: done) cs rest]
        simp only [List.reverse_cons, List.append_assoc, List.cons_append, List.nil_append]
      · have hone : ¬ (IsUnit c ∧ BeginsUnit ((d :: cs).flatMap escape ++ '"' :: rest)) := by
          rintro ⟨hc, hbegins⟩
          rw [List.flatMap_cons, List.append_assoc] at hbegins
          exact hpair ⟨hc, isUnit_of_beginsUnit hbegins⟩
        rw [readString?_escape done _ hone, readString?_escaped (c :: done) (d :: cs) rest]
        simp only [List.reverse_cons, List.append_assoc, List.cons_append, List.nil_append]

theorem readString?_quote (s : String) (rest : List Char) :
    readString? [] (s.toList.flatMap escape ++ '"' :: rest) = some (s, rest) := by
  rw [readString?_escaped, List.reverse_nil, List.nil_append, String.ofList_toList]

/-! ## Numbers -/

/-- The whole part of a number: a zero that stands alone, or digits that begin with another one. -/
inductive WholePart : List Char → Prop where
  | zero : WholePart ['0']
  | led {ds : List Char} : Led ds → WholePart ds

/-- What marks a number as one that need not be whole: a point with a digit behind it, or an exponent. -/
inductive Mark : List Char → Prop where
  | point {c : Char} {rest : List Char} : c.isDigit = true → Mark ('.' :: c :: rest)
  | exponent {rest : List Char} : Mark ('e' :: rest)

/-- A number with a mark, its sign aside. -/
inductive Marked : List Char → Prop where
  | intro {ds tail : List Char} : WholePart ds → Mark tail → Marked (ds ++ tail)

theorem WholePart.exists_cons {ds : List Char} (h : WholePart ds) :
    ∃ c rest, ds = c :: rest ∧ ∀ d ∈ c :: rest, d.isDigit = true := by
  cases h with
  | zero => exact ⟨_, _, rfl, List.forall_mem_singleton.mpr rfl⟩
  | led h =>
      cases h with
      | intro hc _ hds => exact ⟨_, _, rfl, List.forall_mem_cons.mpr ⟨hc, hds⟩⟩

theorem WholePart.isWholePart_eq {ds : List Char} (h : WholePart ds) : isWholePart ds = true := by
  cases h with
  | zero => rfl
  | led h =>
      cases h with
      | @intro c rest hc hne hds =>
          have hall : rest.all Char.isDigit = true := List.all_eq_true.mpr hds
          have hone : ∀ rest', c :: rest = '0' :: rest' → False := fun _ h => hne (List.cons.inj h).1
          rw [isWholePart.eq_3 _ _ (by simpa using fun h _ => hne h), hc, hall, bne_iff_ne.mpr hne]
          rfl

section Numbers

variable {cs ds tail rest : List Char} {negative : Bool} {x : Float}

theorem span_isDigit_of_wholePart (h : WholePart ds) (htail : tail.head?.any Char.isDigit = false) :
    (ds ++ tail).span Char.isDigit = (ds, tail) := by
  obtain ⟨c, ds, rfl, hdigits⟩ := h.exists_cons
  exact span_append hdigits htail

/-- A number with a mark is read as a float. -/
theorem number?_of_marked (h : Marked cs) :
    number? (Style.withSign negative cs) = (readFinite? (Style.withSign negative cs)).map number := by
  obtain @⟨ds, tail, hds, hmark⟩ := h
  have htail : tail.head?.any Char.isDigit = false := by cases hmark <;> rfl
  have hspan := span_isDigit_of_wholePart hds htail
  have hwhole := hds.isWholePart_eq
  obtain ⟨c, ds, rfl, hdigits⟩ := hds.exists_cons
  have hne : c ≠ '-' := ne_of_isDigit (hdigits c List.mem_cons_self) rfl
  rw [List.cons_append] at hspan ⊢
  cases hmark with
  | point hd =>
      cases negative <;>
      · simp only [number?, Style.withSign, Bool.false_eq_true, if_true, if_false, List.cons.injEq, hne,
          false_and, imp_self, implies_true, hspan, hwhole, hd]
        rfl
  | exponent =>
      cases negative <;>
      · simp only [number?, Style.withSign, Bool.false_eq_true, if_true, if_false, List.cons.injEq, hne,
          false_and, imp_self, implies_true, hspan, hwhole]
        rfl

/-- A number without a mark stays whole if it fits into 64 bits. -/
theorem number?_of_wholePart (h : WholePart ds)
    (hfits : if negative then 0 < Literal.digitsValue ds ∧ Literal.digitsValue ds ≤ 2 ^ 63
      else Literal.digitsValue ds < 2 ^ 64) :
    number? (Style.withSign negative ds) =
      some (whole (if negative then -(Literal.digitsValue ds : Int) else Literal.digitsValue ds)) := by
  have hspan : (ds ++ []).span Char.isDigit = (ds, []) := span_isDigit_of_wholePart h rfl
  rw [List.append_nil] at hspan
  have hwhole := h.isWholePart_eq
  obtain ⟨c, ds, rfl, hdigits⟩ := h.exists_cons
  have hne : c ≠ '-' := ne_of_isDigit (hdigits c List.mem_cons_self) rfl
  have hshift : 1 <<< 63 = 2 ^ 63 ∧ 1 <<< 64 = 2 ^ 64 := by decide
  cases negative with
  | true =>
      rw [if_pos rfl] at hfits
      simp only [number?, Style.withSign, if_true, hspan, hwhole, hshift, hfits.1, hfits.2]
      rfl
  | false =>
      rw [if_neg (by decide)] at hfits
      simp only [number?, Style.withSign, Bool.false_eq_true, if_false, List.cons.injEq, hne, false_and,
        imp_self, implies_true, hspan, hwhole, hshift, hfits]
      rfl

/-- A decimal that is not zero has a point or an exponent in a report. -/
theorem marked_write {d : Decimal} (hd : 0 < d.digits) : Marked (d.write Style.json) := by
  have hled := led_digitChars hd
  have hdigits : ∀ c ∈ digitChars d.digits, c.isDigit = true := fun _ => isDigit_of_mem_digitChars
  have hpoint : ∀ {fraction : List Char}, fraction ≠ [] → (∀ c ∈ fraction, c.isDigit = true) →
      ∀ rest, Mark ('.' :: fraction ++ rest) := by
    intro fraction hne hfraction rest
    obtain ⟨c, cs, rfl⟩ := List.exists_cons_of_ne_nil hne
    exact .point (hfraction c List.mem_cons_self)
  have hdrop : ∀ {k}, ¬ (digitChars d.digits).length ≤ k →
      ∀ rest, Mark ('.' :: (digitChars d.digits).drop k ++ rest) := fun hk =>
    hpoint (by simpa using hk) fun c hc => hdigits c (List.mem_of_mem_drop hc)
  simp only [write, positional, exponential]
  generalize d.exponent + (digitChars d.digits).length - 1 = x
  by_cases hpositional : Style.json.isPositional x = true
  · rw [if_pos hpositional]
    split_ifs with hneg hshort
    · have hfraction : zeros (-x - 1).toNat ++ digitChars d.digits ≠ [] := by
        simp [digitChars_ne_nil]
      have h := hpoint hfraction
        (List.forall_mem_append.mpr ⟨fun _ => isDigit_of_mem_zeros, hdigits⟩) []
      rw [List.append_nil] at h
      have hzero : Marked (['0'] ++ _) := .intro .zero h
      exact hzero
    · exact .intro (.led (hled.append fun _ => isDigit_of_mem_zeros)) (.point rfl)
    · have h := hdrop hshort []
      rw [List.append_nil] at h
      exact .intro (.led (hled.take x.toNat)) h
  · rw [if_neg hpositional]
    generalize (if x < 0 then ['-'] else if Style.json.hasPlus then ['+'] else []) = sign
    split_ifs with hshort
    · rw [List.append_nil, List.append_assoc]
      exact .intro (.led (hled.take 0)) .exponent
    · simp only [List.append_assoc]
      exact .intro (.led (hled.take 0)) (hdrop hshort _)

theorem marked_shortest (tie : Tie) {i : Nat} (h : i < Binary64.infinityRank) :
    Marked ((shortest tie i).write Style.json) := by
  by_cases hdigits : (shortest tie i).digits = 0
  · obtain rfl : i = 0 := by rw [← rank_shortest h, rank_of_digits_eq_zero hdigits]
    have hmarked : Marked (['0'] ++ ['.', '0']) := .intro .zero (.point rfl)
    rw [shortest, if_pos rfl]
    exact hmarked
  · exact marked_write (Nat.pos_of_ne_zero hdigits)

/-- A finite float is read back as this float, the sign of zero included. -/
theorem number?_chars (hx : x.isFinite = true) : number? (Style.json.chars x) = some (number x) := by
  have hlt := (Binary64.isFinite_iff x).mp hx
  have hread := readNumber?_chars (s := Style.json) (.point 1) hx
  have hkeeps : Style.json.keepsZeroSign = true := rfl
  rw [hkeeps, Bool.or_true, Bool.and_true, Binary64.ofRank_rank] at hread
  have hnumber : number? (Style.json.chars x) = (readFinite? (Style.json.chars x)).map number := by
    rw [Style.json.chars_of_isFinite hx]
    exact number?_of_marked (marked_shortest _ hlt)
  rw [hnumber, readFinite?_of_read hread, if_pos hx]
  rfl

theorem toList_toString (n : Int) :
    (toString n).toList = Style.withSign (decide (n < 0)) (digitChars n.natAbs) := by
  cases n with
  | ofNat n => simp [toString, digitChars, Style.withSign, Int.repr, Nat.repr]
  | negSucc n => simp [toString, digitChars, Style.withSign, Int.repr, Nat.repr]

theorem wholePart_digitChars (n : Nat) : WholePart (digitChars n) := by
  rcases Nat.eq_zero_or_pos n with rfl | hpos
  · exact .zero
  · exact .led (led_digitChars hpos)

/-- A whole number that fits into 64 bits is read back as such. -/
theorem number?_toString {n : Int} (hlow : -2 ^ 63 ≤ n) (hhigh : n < 2 ^ 64) :
    number? (toString n).toList = some (whole n) := by
  rw [toList_toString, number?_of_wholePart (wholePart_digitChars _), digitsValue_digitChars]
  · by_cases hneg : n < 0
    · rw [if_pos (decide_eq_true hneg)]
      congr 2
      omega
    · rw [if_neg (by simpa using hneg)]
      congr 2
      omega
  · rw [digitsValue_digitChars]
    split_ifs with hneg
    · simp only [decide_eq_true_eq] at hneg
      omega
    · simp only [decide_eq_true_eq] at hneg
      omega

/-- A number ends where a character stands that no number has. -/
theorem readDigits?_append {v : Json} (hcs : ∀ c ∈ cs, isNumberPart c = true)
    (hrest : rest.head?.any isNumberPart = false) (h : number? cs = some v) :
    readDigits? (cs ++ rest) = some (v, rest) := by
  simp only [readDigits?, span_append hcs hrest, h, Option.map_some]

end Numbers

/-! ## Values -/

mutual

/-- A value as it is read back: a number that is not finite has become `null`. -/
def written : Json → Json
  | number x => if x.isFinite then number x else null
  | array elements => array (writtenElements elements)
  | object fields => object (writtenFields fields)
  | v => v

def writtenElements : List Json → List Json
  | [] => []
  | v :: rest => v.written :: writtenElements rest

def writtenFields : List (String × Json) → List (String × Json)
  | [] => []
  | (name, v) :: rest => (name, v.written) :: writtenFields rest

end

mutual

/-- All whole numbers in a value fit into 64 bits, with or without a sign. -/
def Fits : Json → Prop
  | whole n => -2 ^ 63 ≤ n ∧ n < 2 ^ 64
  | array elements => FitsElements elements
  | object fields => FitsFields fields
  | _ => True

def FitsElements : List Json → Prop
  | [] => True
  | v :: rest => v.Fits ∧ FitsElements rest

def FitsFields : List (String × Json) → Prop
  | [] => True
  | (_, v) :: rest => v.Fits ∧ FitsFields rest

end

theorem separate_cons_cons (between part part' : List Char) (parts : List (List Char)) :
    separate between (part :: part' :: parts) = part ++ between ++ separate between (part' :: parts) := by
  simp [separate, List.intercalate]

theorem separate_singleton (between part : List Char) : separate between [part] = part := by
  simp [separate, List.intercalate]

section Values

variable {fuel : Nat} {c : Char} {cs rest : List Char}

theorem skipGap_cons (h : isGap c = false) : skipGap (c :: cs) = c :: cs := by
  rw [skipGap, List.dropWhile_cons, h]
  rfl

theorem isGap_of_isNumberPart (h : isNumberPart c = true) : isGap c = false := by
  rw [Bool.eq_false_iff]
  intro hgap
  simp only [isGap, Bool.or_eq_true, beq_iff_eq] at hgap
  rcases hgap with ((rfl | rfl) | rfl) | rfl <;> cases h

theorem ne_of_isNumberPart {d : Char} (h : isNumberPart c = true) (hd : isNumberPart d = false) :
    c ≠ d := by
  rintro rfl
  rw [h] at hd
  cases hd

theorem readValue?_of_isNumberPart (h : isNumberPart c = true) :
    readValue? (fuel + 1) (c :: cs) = readDigits? (c :: cs) := by
  rw [readValue?, skipGap_cons (isGap_of_isNumberPart h)]
  split
  case h_7 => rfl
  all_goals exact absurd (List.cons.inj ‹_›).1 (ne_of_isNumberPart h rfl)

theorem readValue?_of_number? {v : Json} (h : number? cs = some v)
    (hcs : ∀ c ∈ cs, isNumberPart c = true) (hrest : rest.head?.any isNumberPart = false) :
    readValue? (fuel + 1) (cs ++ rest) = some (v, rest) := by
  have hread := readDigits?_append hcs hrest h
  cases cs with
  | nil => cases h
  | cons c cs => rw [List.cons_append, readValue?_of_isNumberPart (hcs c List.mem_cons_self),
      ← List.cons_append, hread]

theorem readValue?_null : readValue? (fuel + 1) ("null".toList ++ rest) = some (null, rest) := rfl

theorem readValue?_true : readValue? (fuel + 1) ("true".toList ++ rest) = some (bool true, rest) := rfl

theorem readValue?_false : readValue? (fuel + 1) ("false".toList ++ rest) = some (bool false, rest) :=
  rfl

theorem isNumberPart_of_isNumeral (h : isNumeral c = true) : isNumberPart c = true := by
  rw [isNumeral, Bool.or_eq_true, decide_eq_true_eq] at h
  rcases h with hdigit | hmark
  · rw [isNumberPart, hdigit]
    rfl
  · simp only [List.mem_cons, List.not_mem_nil, or_false] at hmark
    rcases hmark with rfl | rfl | rfl | rfl <;> rfl

theorem isNumberPart_of_mem_chars {x : Float} (hx : x.isFinite = true) :
    ∀ c ∈ Style.json.chars x, isNumberPart c = true := by
  exact fun c hc => isNumberPart_of_isNumeral (Numeral.json_chars hx c hc)

theorem isNumberPart_of_mem_toString {n : Int} : ∀ c ∈ (toString n).toList, isNumberPart c = true := by
  intro c hc
  rw [toList_toString] at hc
  exact isNumberPart_of_isNumeral ((Numeral.digitChars _).withSign _ c hc)

theorem chars_of_not_isFinite {x : Float} (hx : ¬ x.isFinite = true) :
    Style.json.chars x = "null".toList := by
  rw [Binary64.isFinite_iff, Nat.not_lt] at hx
  rcases hx.eq_or_lt with hinf | hnan
  · exact Style.chars_of_rank_eq _ hinf.symm
  · exact Style.chars_of_isNaN _ ((Binary64.isNaN_iff x).mpr hnan)

theorem readValue?_number (x : Float) (hrest : rest.head?.any isNumberPart = false) :
    readValue? (fuel + 1) ((number x).compactChars ++ rest) = some ((number x).written, rest) := by
  rw [written]
  change readValue? (fuel + 1) (Style.json.chars x ++ rest) = _
  split_ifs with hx
  · exact readValue?_of_number? (number?_chars hx) (isNumberPart_of_mem_chars hx) hrest
  · rw [chars_of_not_isFinite hx]
    exact readValue?_null

theorem readValue?_whole {n : Int} (hlow : -2 ^ 63 ≤ n) (hhigh : n < 2 ^ 64)
    (hrest : rest.head?.any isNumberPart = false) :
    readValue? (fuel + 1) ((whole n).compactChars ++ rest) = some (whole n, rest) := by
  change readValue? (fuel + 1) ((toString n).toList ++ rest) = _
  exact readValue?_of_number? (number?_toString hlow hhigh) isNumberPart_of_mem_toString hrest

theorem quote_append (s : String) (rest : List Char) :
    quote s ++ rest = '"' :: (s.toList.flatMap escape ++ '"' :: rest) := by
  simp [quote]

theorem readValue?_string (s : String) :
    readValue? (fuel + 1) ((string s).compactChars ++ rest) = some (string s, rest) := by
  change readValue? (fuel + 1) (quote s ++ rest) = _
  rw [quote_append, readValue?, skipGap_cons rfl]
  simp only [readString?_quote, Option.map_some]

/-- A value begins neither with a gap nor with the end of an array. -/
theorem exists_cons_compactChars (v : Json) :
    ∃ c cs, v.compactChars = c :: cs ∧ isGap c = false ∧ c ≠ ']' := by
  have hnumber : ∀ {cs : List Char}, cs ≠ [] → (∀ c ∈ cs, isNumberPart c = true) →
      ∃ c rest, cs = c :: rest ∧ isGap c = false ∧ c ≠ ']' := by
    intro cs hne hcs
    obtain ⟨c, rest, rfl⟩ := List.exists_cons_of_ne_nil hne
    have hc := hcs c List.mem_cons_self
    exact ⟨c, rest, rfl, isGap_of_isNumberPart hc, ne_of_isNumberPart hc rfl⟩
  cases v with
  | null => exact ⟨_, _, rfl, rfl, by decide⟩
  | bool b => cases b <;> exact ⟨_, _, rfl, rfl, by decide⟩
  | whole n =>
      change ∃ c cs, (toString n).toList = c :: cs ∧ _
      refine hnumber ?_ isNumberPart_of_mem_toString
      rw [toList_toString, Style.withSign]
      split_ifs
      · exact List.cons_ne_nil _ _
      · exact digitChars_ne_nil _
  | number x =>
      change ∃ c cs, Style.json.chars x = c :: cs ∧ _
      by_cases hx : x.isFinite = true
      · refine hnumber (fun hnil => ?_) (isNumberPart_of_mem_chars hx)
        have hread := number?_chars hx
        rw [hnil] at hread
        cases hread
      · rw [chars_of_not_isFinite hx]
        exact ⟨_, _, rfl, rfl, by decide⟩
  | string s => exact ⟨_, _, rfl, rfl, by decide⟩
  | array elements => exact ⟨_, _, by rw [compactChars]; rfl, rfl, by decide⟩
  | object fields => exact ⟨_, _, by rw [compactChars]; rfl, rfl, by decide⟩

theorem exists_cons_separate (v : Json) (elements : List Json) :
    ∃ c cs, separate [','] (compactElements (v :: elements)) = c :: cs ∧ isGap c = false ∧ c ≠ ']' := by
  obtain ⟨c, cs, hcs, hc⟩ := exists_cons_compactChars v
  rw [compactElements, hcs]
  cases elements with
  | nil => exact ⟨c, cs, by rw [compactElements, separate_singleton], hc⟩
  | cons w elements => exact ⟨c, _, by rw [compactElements, separate_cons_cons]; rfl, hc⟩

theorem exists_cons_separate_fields (name : String) (v : Json) (fields : List (String × Json)) :
    ∃ cs, separate [','] (compactFields ((name, v) :: fields)) = '"' :: cs := by
  rw [compactFields, quote_append]
  cases fields with
  | nil => exact ⟨_, by rw [compactFields, separate_singleton]⟩
  | cons field fields => exact ⟨_, by rw [compactFields, separate_cons_cons]; rfl⟩

mutual

/-- A value is read back. -/
theorem readValue?_compactChars : ∀ (v : Json) {fuel : Nat} {rest : List Char}, v.Fits →
    2 * v.compactChars.length ≤ fuel → rest.head?.any isNumberPart = false →
    readValue? fuel (v.compactChars ++ rest) = some (v.written, rest)
  | v, 0, rest, hv, hfuel, hrest => by
      obtain ⟨c, cs, hcs, -⟩ := exists_cons_compactChars v
      rw [hcs, List.length_cons] at hfuel
      omega
  | null, fuel + 1, rest, hv, hfuel, hrest => readValue?_null
  | bool true, fuel + 1, rest, hv, hfuel, hrest => readValue?_true
  | bool false, fuel + 1, rest, hv, hfuel, hrest => readValue?_false
  | whole n, fuel + 1, rest, hv, hfuel, hrest => readValue?_whole hv.1 hv.2 hrest
  | number x, fuel + 1, rest, hv, hfuel, hrest => readValue?_number x hrest
  | string s, fuel + 1, rest, hv, hfuel, hrest => readValue?_string s
  | array [], fuel + 1, rest, hv, hfuel, hrest => rfl
  | array (v :: elements), fuel + 1, rest, hv, hfuel, hrest => by
      obtain ⟨c, cs, hcs, hgap, hne⟩ := exists_cons_separate v elements
      rw [compactChars] at hfuel ⊢
      simp only [List.length_cons, List.length_append, List.length_nil] at hfuel
      rw [List.cons_append, List.cons_append, List.append_assoc, List.singleton_append, readValue?,
        skipGap_cons rfl]
      simp only [hcs, List.cons_append, skipGap_cons hgap]
      split
      · exact absurd (List.cons.inj ‹_›).1 hne
      · rw [← List.cons_append, ← hcs, readElements?_compactElements (v :: elements)
          (List.cons_ne_nil _ _) hv (by omega), written]
        rfl
  | object [], fuel + 1, rest, hv, hfuel, hrest => rfl
  | object ((name, v) :: fields), fuel + 1, rest, hv, hfuel, hrest => by
      rw [compactChars] at hfuel ⊢
      obtain ⟨cs, hcs⟩ := exists_cons_separate_fields name v fields
      simp only [List.length_cons, List.length_append, List.length_nil] at hfuel
      rw [List.cons_append, List.cons_append, List.append_assoc, List.singleton_append, readValue?,
        skipGap_cons rfl]
      simp only [hcs, List.cons_append, skipGap_cons (show isGap '"' = false from rfl)]
      split
      · exact absurd (List.cons.inj ‹_›).1 (by decide)
      · rw [← List.cons_append, ← hcs, readFields?_compactFields ((name, v) :: fields)
          (List.cons_ne_nil _ _) hv (by omega), written]
        rfl

theorem readElements?_compactElements : ∀ (elements : List Json) {fuel : Nat} {done : List Json}
    {rest : List Char}, elements ≠ [] → FitsElements elements →
    2 * (separate [','] (compactElements elements)).length + 1 ≤ fuel →
    readElements? fuel done (separate [','] (compactElements elements) ++ ']' :: rest) =
      some (array (done.reverse ++ writtenElements elements), rest)
  | [], fuel, done, rest, hne, hfits, hfuel => absurd rfl hne
  | [v], fuel + 1, done, rest, hne, hfits, hfuel => by
      rw [compactElements, compactElements, separate_singleton] at hfuel ⊢
      rw [readElements?, readValue?_compactChars v hfits.1 (by omega) rfl]
      simp only [skipGap_cons (show isGap ']' = false from rfl)]
      rw [writtenElements, writtenElements, List.reverse_cons]
  | v :: w :: elements, fuel + 1, done, rest, hne, hfits, hfuel => by
      rw [compactElements, compactElements, separate_cons_cons, ← compactElements] at hfuel ⊢
      simp only [List.length_append, List.length_singleton] at hfuel
      rw [List.append_assoc, List.append_assoc, List.singleton_append, readElements?,
        readValue?_compactChars v hfits.1 (by omega) rfl]
      simp only [skipGap_cons (show isGap ',' = false from rfl)]
      rw [readElements?_compactElements (w :: elements) (List.cons_ne_nil _ _) hfits.2 (by omega),
        List.reverse_cons, List.append_assoc, List.singleton_append]
      conv_rhs => rw [writtenElements]

theorem readFields?_compactFields : ∀ (fields : List (String × Json)) {fuel : Nat}
    {done : List (String × Json)} {rest : List Char}, fields ≠ [] → FitsFields fields →
    2 * (separate [','] (compactFields fields)).length + 1 ≤ fuel →
    readFields? fuel done (separate [','] (compactFields fields) ++ '\x7d' :: rest) =
      some (object (done.reverse ++ writtenFields fields), rest)
  | [], fuel, done, rest, hne, hfits, hfuel => absurd rfl hne
  | [(name, v)], fuel + 1, done, rest, hne, hfits, hfuel => by
      rw [compactFields, compactFields, separate_singleton] at hfuel ⊢
      simp only [List.length_append, List.length_cons] at hfuel
      rw [List.append_assoc, quote_append, readFields?, skipGap_cons rfl]
      simp only [readString?_quote, List.cons_append, skipGap_cons (show isGap ':' = false from rfl)]
      rw [readValue?_compactChars v hfits.1 (by omega) rfl]
      simp only [skipGap_cons (show isGap '\x7d' = false from rfl)]
      rw [writtenFields, writtenFields, List.reverse_cons]
  | (name, v) :: (name', v') :: fields, fuel + 1, done, rest, hne, hfits, hfuel => by
      rw [compactFields, compactFields, separate_cons_cons, ← compactFields] at hfuel ⊢
      simp only [List.length_append, List.length_cons, List.length_nil] at hfuel
      rw [List.append_assoc, List.append_assoc, List.append_assoc, List.singleton_append, quote_append,
        readFields?, skipGap_cons rfl]
      simp only [readString?_quote, List.cons_append, skipGap_cons (show isGap ':' = false from rfl)]
      rw [readValue?_compactChars v hfits.1 (by omega) rfl]
      simp only [skipGap_cons (show isGap ',' = false from rfl)]
      rw [readFields?_compactFields ((name', v') :: fields) (List.cons_ne_nil _ _) hfits.2 (by omega),
        List.reverse_cons, List.append_assoc, List.singleton_append]
      conv_rhs => rw [writtenFields]

end

/-- The text of a value is read as this value, numbers that are not finite aside. -/
theorem read?_compact {v : Json} (h : v.Fits) : read? v.compact = some v.written := by
  have hread : readValue? (2 * v.compactChars.length + 2) (v.compactChars ++ []) =
      some (v.written, []) := readValue?_compactChars v h (by omega) rfl
  rw [List.append_nil] at hread
  simp only [read?, compact, String.toList_ofList, hread]
  rfl

end Values

end ExprGateway.Json
