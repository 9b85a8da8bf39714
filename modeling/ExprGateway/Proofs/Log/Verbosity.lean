import ExprGateway.Log.Threshold
import ExprGateway.Proofs.Number.Digits
import ExprGateway.Proofs.Text.Splitting
import ExprGateway.Proofs.Text.Trimming

/-!
# Verbosity

Flags raise the thresholds of a list that stand alone, and leave the directives for single targets as they
are.  `Spelled` says which texts are thresholds, whatever the letters and however the number is written
(`read?_eq_some_iff`), and `Raised` what becomes of a directive.

What is put out is a list of the same kind: no directive has a comma in it, a blank at an end, or nothing
at all (`IsPart`), so its parts are found again as they were put in (`splitOn_withVerbosity`).  One
threshold stands alone there in any case.  That makes raising twice one raising, to the larger of the two
thresholds (`raise_raise`), and flags compose as their maximum.
-/

namespace ExprGateway.Log

open Digits

/-! ## Thresholds -/

namespace Threshold

variable {s : String} {t u v : Threshold}

/-- The texts of a threshold: its name in letters of either case, or its rank as a number. -/
inductive Spelled : String → Threshold → Prop where
  | name {s : String} {t : Threshold} : s.toList.map Char.toLower = t.name.toList → Spelled s t
  | number {s : String} {t : Threshold} : WordNumeral s.toList t.rank → Spelled s t

theorem any_isDigit_name (t : Threshold) : t.name.toList.any Char.isDigit = false := by
  rcases t with _ | (_ | _ | _ | _ | _) <;> rfl

theorem toLower_of_isDigit {c : Char} (h : c.isDigit = true) : c.toLower = c := by
  refine Char.toLower_eq_of_not_isUpper fun hupper => ?_
  have hdigit := toNat_of_isDigit h
  have hval : c.val.toNat = c.toNat := rfl
  have hA : 'A'.val.toNat = 65 := rfl
  rw [Char.isUpper] at hupper
  simp only [decide_eq_true_eq, ge_iff_le, UInt32.le_iff_toNat_le] at hupper
  omega

/-- A number has a digit in it, and a name has none. -/
theorem word?_of_name (h : s.toList.map Char.toLower = t.name.toList) : word? s.toList = none := by
  rw [Option.eq_none_iff_forall_ne_some]
  intro n hn
  obtain ⟨c, hc, hdigit⟩ := (word?_eq_some_iff.mp hn).1.exists_isDigit
  have hmem : c ∈ t.name.toList := by
    rw [← h, ← toLower_of_isDigit hdigit]
    exact List.mem_map_of_mem hc
  exact List.any_eq_false.mp t.any_isDigit_name c hmem hdigit

theorem rank_le (t : Threshold) : t.rank ≤ 5 := by
  rcases t with _ | (_ | _ | _ | _ | _) <;> decide

theorem rank_injective (h : t.rank = u.rank) : t = u := by
  rcases t with _ | (_ | _ | _ | _ | _) <;> rcases u with _ | (_ | _ | _ | _ | _) <;>
    first | rfl | cases h

/-- All thresholds are listed by their ranks. -/
theorem all_getElem?_eq_some_iff {n : Nat} : all[n]? = some t ↔ t.rank = n := by
  constructor
  · intro h
    obtain ⟨hn, rfl⟩ := List.getElem?_eq_some_iff.mp h
    have hlen : all.length = 6 := rfl
    rw [hlen] at hn
    interval_cases n <;> rfl
  · rintro rfl
    rcases t with _ | (_ | _ | _ | _ | _) <;> rfl

theorem find?_name_eq_some_iff {name : String} :
    (all.find? fun t => t.name == name) = some t ↔ t.name = name := by
  constructor
  · intro h
    simpa using List.find?_some h
  · rintro rfl
    rcases t with _ | (_ | _ | _ | _ | _) <;> decide +kernel

/-- A text is read as a threshold exactly if it is one of its texts. -/
theorem read?_eq_some_iff : read? s = some t ↔ Spelled s t := by
  unfold read?
  constructor
  · intro h
    split at h
    next n hn =>
      obtain rfl := all_getElem?_eq_some_iff.mp h
      exact .number (word?_eq_some_iff.mp hn).1
    next =>
      refine .name ?_
      rw [find?_name_eq_some_iff.mp h, String.toList_ofList]
  · intro h
    cases h with
    | name h =>
        rw [word?_of_name h]
        exact find?_name_eq_some_iff.mpr (by rw [h, String.ofList_toList])
    | number h =>
        have hle := t.rank_le
        have hword : word? s.toList = some t.rank := word?_eq_some_iff.mpr ⟨h, by omega⟩
        rw [hword]
        exact all_getElem?_eq_some_iff.mpr rfl

theorem read?_name (t : Threshold) : read? t.name = some t := by
  refine read?_eq_some_iff.mpr (.name ?_)
  rcases t with _ | (_ | _ | _ | _ | _) <;> decide +kernel

/-! ## The larger of two thresholds -/

theorem rank_max (t u : Threshold) : (t.max u).rank = Max.max t.rank u.rank := by
  rw [Threshold.max]
  split_ifs with h
  · exact (Nat.max_eq_right h.le).symm
  · exact (Nat.max_eq_left (Nat.not_lt.mp h)).symm

theorem max_assoc (t u v : Threshold) : (t.max u).max v = t.max (u.max v) :=
  rank_injective (by simp only [rank_max, Nat.max_assoc])

/-- A flag more is a level more, up to the last one. -/
theorem rank_ofFlags {n : Nat} (h : 1 ≤ n) : (ofFlags n).rank = min (n + 2) 5 := by
  match n, h with
  | 1, _ | 2, _ => rfl
  | n + 3, _ => exact (min_eq_right (by omega : 5 ≤ n + 3 + 2)).symm

theorem ofFlags_max {n m : Nat} (hn : 1 ≤ n) (hm : 1 ≤ m) :
    (ofFlags n).max (ofFlags m) = ofFlags (Max.max n m) := by
  refine rank_injective ?_
  rw [rank_max, rank_ofFlags hn, rank_ofFlags hm, rank_ofFlags (hn.trans (le_max_left n m))]
  simp only [max_def, min_def]
  split_ifs <;> omega

end Threshold

open Threshold

/-! ## Directives -/

/-- What becomes of a directive: a threshold is raised and written by its name, anything else is kept. -/
inductive Raised (least : Threshold) : String → String → Prop where
  | threshold {part : String} {t u : Threshold} : Spelled part t →
      u.rank = max t.rank least.rank → Raised least part u.name
  | other {part : String} : (¬ ∃ t, Spelled part t) → Raised least part part

section Raising

variable (least least' : Threshold) (part : String) (directives : List String)

theorem raised_raisePart : Raised least part (raisePart least part) := by
  unfold raisePart
  split
  next t h => exact .threshold (read?_eq_some_iff.mp h) (rank_max t least)
  next h =>
    refine .other fun ⟨t, ht⟩ => ?_
    rw [read?_eq_some_iff.mpr ht] at h
    cases h

theorem read?_raisePart : read? (raisePart least part) = (read? part).map (·.max least) := by
  unfold raisePart
  cases h : read? part with
  | some t => exact read?_name _
  | none => exact h

theorem raisePart_raisePart :
    raisePart least' (raisePart least part) = raisePart (least.max least') part := by
  unfold raisePart
  cases h : read? part with
  | some t => simp only [read?_name, max_assoc]
  | none => simp only [h]

/-- Some directive is a threshold. -/
def HasThreshold (directives : List String) : Prop := ∃ part ∈ directives, ∃ t, Spelled part t

theorem any_read?_iff :
    (directives.any fun part => (read? part).isSome) = true ↔ HasThreshold directives := by
  simp only [List.any_eq_true, Option.isSome_iff_exists, read?_eq_some_iff, HasThreshold]

theorem raise_of_hasThreshold {directives : List String} (h : HasThreshold directives) :
    raise least directives = directives.map (raisePart least) :=
  if_pos ((any_read?_iff directives).mpr h)

theorem raise_of_not_hasThreshold {directives : List String} (h : ¬ HasThreshold directives) :
    raise least directives = least.name :: directives.map (raisePart least) :=
  if_neg (mt (any_read?_iff directives).mp h)

theorem hasThreshold_raise : HasThreshold (raise least directives) := by
  by_cases h : HasThreshold directives
  · rw [raise_of_hasThreshold least h]
    obtain ⟨part, hpart, t, ht⟩ := h
    refine ⟨_, List.mem_map_of_mem hpart, t.max least, read?_eq_some_iff.mp ?_⟩
    rw [read?_raisePart, read?_eq_some_iff.mpr ht]
    rfl
  · rw [raise_of_not_hasThreshold least h]
    exact ⟨_, List.mem_cons_self, least, read?_eq_some_iff.mp (read?_name least)⟩

/-- Raising twice is raising to the larger of the two. -/
theorem raise_raise :
    raise least' (raise least directives) = raise (least.max least') directives := by
  rw [raise_of_hasThreshold least' (hasThreshold_raise least directives)]
  have hparts : (directives.map (raisePart least)).map (raisePart least') =
      directives.map (raisePart (least.max least')) := by
    rw [List.map_map]
    exact List.map_congr_left fun part _ => raisePart_raisePart least least' part
  by_cases h : HasThreshold directives
  · rw [raise_of_hasThreshold _ h, raise_of_hasThreshold _ h, hparts]
  · have hname : raisePart least' least.name = (least.max least').name := by
      rw [raisePart, read?_name]
    rw [raise_of_not_hasThreshold _ h, raise_of_not_hasThreshold _ h, List.map_cons, hparts, hname]

end Raising

/-! ## Lists of directives -/

/-- A directive as it stands between commas, without the blanks around it. -/
structure IsPart (part : String) : Prop where
  ne_empty : part ≠ ""
  comma : ',' ∉ part.toList
  trimmed : trim part = part

section Parts

variable {list : String} {directives : List String} {least : Threshold}

theorem isPart_of_mem_parts {part : String} (h : part ∈ parts list) : IsPart part := by
  obtain ⟨hmem, hne⟩ := List.mem_filter.mp h
  obtain ⟨piece, hpiece, rfl⟩ := List.mem_map.mp hmem
  refine ⟨by simpa using hne, fun hcomma => ?_, trim_trim piece⟩
  rw [toList_trim] at hcomma
  exact notMem_of_mem_splitOn_singleton (c := ',') hpiece (mem_of_mem_trimBlanks hcomma)

theorem isPart_name (t : Threshold) : IsPart t.name := by
  rcases t with _ | (_ | _ | _ | _ | _) <;> exact ⟨by decide, by decide, by decide +kernel⟩

theorem isPart_raise (h : ∀ part ∈ directives, IsPart part) :
    ∀ part ∈ raise least directives, IsPart part := by
  have hmap : ∀ part ∈ directives.map (raisePart least), IsPart part := by
    intro part hpart
    obtain ⟨part, hmem, rfl⟩ := List.mem_map.mp hpart
    unfold raisePart
    split
    · exact isPart_name _
    · exact h part hmem
  by_cases hthreshold : HasThreshold directives
  · rwa [raise_of_hasThreshold least hthreshold]
  · rw [raise_of_not_hasThreshold least hthreshold]
    exact List.forall_mem_cons.mpr ⟨isPart_name least, hmap⟩

theorem raise_ne_nil : raise least directives ≠ [] := by
  obtain ⟨part, hpart, -⟩ := hasThreshold_raise least directives
  exact List.ne_nil_of_mem hpart

/-- Directives that are put together with commas are found again. -/
theorem parts_intercalate (h : ∀ part ∈ directives, IsPart part) (hne : directives ≠ []) :
    (",".intercalate directives).splitOn "," = directives ∧
      parts (",".intercalate directives) = directives := by
  have hsplit : (",".intercalate directives).splitOn "," = directives :=
    splitOn_intercalate (c := ',') hne fun part hpart => (h part hpart).comma
  have htrim : directives.map trim = directives := by
    rw [List.map_congr_left fun part hpart => (h part hpart).trimmed, List.map_id']
  refine ⟨hsplit, ?_⟩
  rw [parts, hsplit, htrim, List.filter_eq_self]
  exact fun part hpart => by simpa using (h part hpart).ne_empty

end Parts

/-! ## Flags -/

section Flags

variable (list : String) {flags : Nat}

theorem withVerbosity_of_pos (h : 1 ≤ flags) :
    withVerbosity list flags = ",".intercalate (raise (.ofFlags flags) (parts list)) :=
  if_neg (by omega)

/-- The directives of the list that flags put out. -/
theorem splitOn_withVerbosity (h : 1 ≤ flags) :
    (withVerbosity list flags).splitOn "," = raise (.ofFlags flags) (parts list) ∧
      parts (withVerbosity list flags) = raise (.ofFlags flags) (parts list) := by
  rw [withVerbosity_of_pos list h]
  exact parts_intercalate (isPart_raise fun part => isPart_of_mem_parts) raise_ne_nil

/-- Flags given twice are the larger number of them. -/
theorem withVerbosity_withVerbosity (n m : Nat) :
    withVerbosity (withVerbosity list n) m = withVerbosity list (max n m) := by
  rcases Nat.eq_zero_or_pos n with rfl | hn
  · rw [max_eq_right (Nat.zero_le m)]
    rfl
  · rcases Nat.eq_zero_or_pos m with rfl | hm
    · rw [max_eq_left (Nat.zero_le n)]
      rfl
    · rw [withVerbosity_of_pos _ hm, withVerbosity_of_pos list (Nat.le_trans hn (le_max_left n m)),
        (splitOn_withVerbosity list hn).2, raise_raise, ofFlags_max hn hm]

/-- There is nothing above the level of three flags. -/
theorem withVerbosity_of_three_le (h : 3 ≤ flags) :
    withVerbosity list flags = withVerbosity list 3 := by
  obtain ⟨k, rfl⟩ := Nat.exists_eq_add_of_le' h
  rw [withVerbosity_of_pos list (by omega), withVerbosity_of_pos list (by omega)]
  rfl

theorem forall₂_raisePart (least : Threshold) (directives : List String) :
    List.Forall₂ (Raised least) directives (directives.map (raisePart least)) := by
  rw [List.forall₂_map_right_iff, List.forall₂_same]
  exact fun part _ => raised_raisePart least part

/-- No threshold that is put out is below that of the flags. -/
theorem rank_le_of_mem_raise {least : Threshold} {directives : List String} {part : String}
    {t : Threshold} (hpart : part ∈ raise least directives) (ht : Spelled part t) :
    least.rank ≤ t.rank := by
  have hread := read?_eq_some_iff.mpr ht
  have hmap : part ∈ directives.map (raisePart least) → least.rank ≤ t.rank := by
    intro hmem
    obtain ⟨part, -, rfl⟩ := List.mem_map.mp hmem
    rw [read?_raisePart, Option.map_eq_some_iff] at hread
    obtain ⟨u, -, rfl⟩ := hread
    rw [rank_max]
    exact le_max_right _ _
  by_cases hthreshold : HasThreshold directives
  · rw [raise_of_hasThreshold least hthreshold] at hpart
    exact hmap hpart
  · rw [raise_of_not_hasThreshold least hthreshold] at hpart
    rcases List.mem_cons.mp hpart with rfl | hmem
    · rw [read?_name, Option.some.injEq] at hread
      exact hread ▸ le_rfl
    · exact hmap hmem

/-- Flags raise the thresholds of a list, or put their own in front if there is none, and keep the other
directives.  Given again they make no difference but by their largest number, and none above three. -/
theorem flags_raise :
    (∀ n m, withVerbosity (withVerbosity list n) m = withVerbosity list (max n m)) ∧
    (∀ n, 3 ≤ n → withVerbosity list n = withVerbosity list 3) ∧
    ∀ n, 1 ≤ n → ∃ raised,
      List.Forall₂ (Raised (.ofFlags n)) (parts list) raised ∧
      (HasThreshold (parts list) ∧ (withVerbosity list n).splitOn "," = raised ∨
        ¬ HasThreshold (parts list) ∧
          (withVerbosity list n).splitOn "," = (Threshold.ofFlags n).name :: raised) ∧
      HasThreshold ((withVerbosity list n).splitOn ",") ∧
      ∀ part ∈ (withVerbosity list n).splitOn ",", ∀ t, Spelled part t →
        (Threshold.ofFlags n).rank ≤ t.rank := by
  refine ⟨withVerbosity_withVerbosity list, fun n => withVerbosity_of_three_le list,
    fun n hn => ⟨_, forall₂_raisePart (.ofFlags n) (parts list), ?_⟩⟩
  rw [(splitOn_withVerbosity list hn).1]
  refine ⟨?_, hasThreshold_raise _ _, fun part hpart t ht => rank_le_of_mem_raise hpart ht⟩
  by_cases h : HasThreshold (parts list)
  · exact .inl ⟨h, raise_of_hasThreshold _ h⟩
  · exact .inr ⟨h, raise_of_not_hasThreshold _ h⟩

theorem parts_warn : parts " Warn , ,gateway=trace" = ["Warn", "gateway=trace"] := by
  rw [parts, show " Warn , ,gateway=trace".splitOn "," = _ from splitOn_singleton _ ',']
  decide +kernel

theorem flags_raise_warn :
    withVerbosity (withVerbosity " Warn , ,gateway=trace" 2) 1 = "debug,gateway=trace" ∧
      withVerbosity " Warn , ,gateway=trace" 7 = "trace,gateway=trace" ∧
      (Threshold.ofFlags 2).rank ≤ (upTo .debug).rank := by
  obtain ⟨hagain, hthree, hraise⟩ := flags_raise " Warn , ,gateway=trace"
  obtain ⟨-, -, -, -, hleast⟩ := hraise 2 (by decide)
  have hmem : "debug" ∈ (withVerbosity " Warn , ,gateway=trace" 2).splitOn "," := by
    rw [(splitOn_withVerbosity _ (by decide)).1, parts_warn]
    decide +kernel
  refine ⟨(hagain 2 1).trans ?_, (hthree 7 (by decide)).trans ?_,
    hleast "debug" hmem (upTo .debug) (read?_eq_some_iff.mp (read?_name (upTo .debug)))⟩ <;>
  · rw [withVerbosity, parts_warn]
    decide +kernel

end Flags

end ExprGateway.Log
