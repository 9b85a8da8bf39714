import ExprGateway.Config.Environment
import ExprGateway.Proofs.Config.Tables
import ExprGateway.Proofs.Text.Trimming
import Mathlib

/-!
# Variables of the environment

`Names` says which names a variable for a path may have: the marker, and the names on the path with two
underscores between them, letters of any case.  Such a name is read as its path (`Names.path?_eq`).  The
variables of an environment are laid over one another, and where no path ends on the way of another one,
what the environment says is, path by path, what the last variable for the path says
(`exists_foldl_lay`); if no two names are equal, this is the only one (`exists_settings`).
-/

namespace ExprGateway.Environment

open Setting

/-! ## Names -/

/-- A name on a path: no point and no blank is in it, and no two underscores follow one another. -/
structure IsKey (cs : List Char) : Prop where
  ne_nil : cs ≠ []
  plain : ∀ c ∈ cs, c ≠ '.' ∧ isBlank c = false
  single : ¬ ['_', '_'] <:+: cs

/-- The names on a path.  None but the last ends in an underscore, since of three underscores the first
two divide. -/
inductive IsPath : List (List Char) → Prop where
  | last {k : List Char} : IsKey k → IsPath [k]
  | cons {k : List Char} {ks : List (List Char)} : IsKey k → k.getLast? ≠ some '_' → IsPath ks →
      IsPath (k :: ks)

/-- Names with two underscores between them. -/
def joined (ks : List (List Char)) : List Char := ['_', '_'].intercalate ks

/-- The letters of a text as small ones. -/
def lower (cs : List Char) : List Char := cs.map Char.toLower

/-- The names of a variable for a path. -/
inductive Names : String → List String → Prop where
  | intro {mark : List Char} {ks : List (List Char)} : lower mark = lower marker.toList → IsPath ks →
      Names (String.ofList (mark ++ joined ks)) (ks.map fun k => String.ofList (lower k))

variable {k rest : List Char} {ks : List (List Char)} {name : String} {path : List String}

theorem IsPath.ne_nil (h : IsPath ks) : ks ≠ [] := by
  cases h <;> exact List.cons_ne_nil _ _

theorem IsPath.isKey (h : IsPath ks) : ∀ k ∈ ks, IsKey k := by
  induction h with
  | last hk => exact List.forall_mem_singleton.mpr hk
  | cons hk _ _ ih => exact List.forall_mem_cons.mpr ⟨hk, ih⟩

theorem joined_cons (h : ks ≠ []) : joined (k :: ks) = k ++ '_' :: '_' :: joined ks := by
  rw [joined, List.intercalate_cons_of_ne_nil h, List.append_assoc]
  rfl

/-! ## Cutting -/

theorem segments_ne_nil (cs : List Char) : segments cs ≠ [] := by
  fun_cases segments cs <;> simp

theorem segments_cons {c : Char} (hpoint : c ≠ '.') (hpair : ¬ (c = '_' ∧ rest.head? = some '_')) :
    segments (c :: rest) = (segments rest).modifyHead (c :: ·) := by
  obtain ⟨s, others, hs⟩ := List.exists_cons_of_ne_nil (segments_ne_nil rest)
  rw [segments.eq_def]
  split
  next heq =>
    obtain ⟨rfl, rfl⟩ := List.cons.inj heq
    exact absurd ⟨rfl, rfl⟩ hpair
  next heq => exact absurd (List.cons.inj heq).1 hpoint
  next heq =>
    obtain ⟨rfl, rfl⟩ := List.cons.inj heq
    rw [hs]
    rfl
  next heq => cases heq

/-- What has no point and no two underscores in it, up to the place where the rest starts, is not cut. -/
theorem segments_append (hpoint : ∀ c ∈ k, c ≠ '.') (hpair : ¬ ['_', '_'] <:+: k)
    (hjoint : ¬ (k.getLast? = some '_' ∧ rest.head? = some '_')) :
    segments (k ++ rest) = (segments rest).modifyHead (k ++ ·) := by
  induction k with
  | nil =>
      obtain ⟨s, others, hs⟩ := List.exists_cons_of_ne_nil (segments_ne_nil rest)
      rw [List.nil_append, hs]
      rfl
  | cons c k ih =>
      obtain ⟨hc, hpoint⟩ := List.forall_mem_cons.mp hpoint
      have hnext : ¬ (c = '_' ∧ (k ++ rest).head? = some '_') := by
        rintro ⟨rfl, hhead⟩
        cases k with
        | nil => exact hjoint ⟨rfl, hhead⟩
        | cons d k =>
            obtain rfl : d = '_' := Option.some.inj hhead
            exact hpair (List.prefix_append ['_', '_'] k).isInfix
      have hlast : ¬ (k.getLast? = some '_' ∧ rest.head? = some '_') := by
        rintro ⟨hk, hrest⟩
        refine hjoint ⟨?_, hrest⟩
        rw [List.getLast?_cons, hk]
        rfl
      have hinfix : ¬ ['_', '_'] <:+: k := fun h => hpair (h.trans (List.suffix_cons c k).isInfix)
      rw [List.cons_append, segments_cons hc hnext, ih hpoint hinfix hlast]
      cases segments rest <;> rfl

/-- Names that are put together are found again. -/
theorem segments_joined (h : IsPath ks) : segments (joined ks) = ks := by
  induction h with
  | @last k hk =>
      have hnil : segments [] = [[]] := by rw [segments]
      have hsegments : segments (k ++ []) = (segments []).modifyHead (k ++ ·) :=
        segments_append (fun c hc => (hk.plain c hc).1) hk.single fun h => nomatch h.2
      rw [List.append_nil, hnil] at hsegments
      rw [joined, List.intercalate_singleton, hsegments, List.modifyHead_cons, List.append_nil]
  | @cons k ks hk hlast hks ih =>
      have hnext : ¬ (k.getLast? = some '_' ∧ ('_' :: '_' :: joined ks).head? = some '_') :=
        fun h => hlast h.1
      rw [joined_cons hks.ne_nil, segments_append (fun c hc => (hk.plain c hc).1) hk.single hnext,
        segments, ih, List.modifyHead_cons, List.append_nil]

/-! ## The path of a name -/

theorem isBlank_of_isUpper {c : Char} (h : c.isUpper = true) : isBlank c = false := by
  have hval : c.val.toNat = c.toNat := rfl
  have hA : 'A'.val.toNat = 65 := rfl
  have hZ : 'Z'.val.toNat = 90 := rfl
  rw [Char.isUpper] at h
  simp only [decide_eq_true_eq, ge_iff_le, UInt32.le_iff_toNat_le] at h
  simp only [isBlank, Bool.or_eq_false_iff, Bool.and_eq_false_iff, decide_eq_false_iff_not,
    beq_eq_false_iff_ne]
  omega

theorem isBlank_of_toLower {c : Char} (h : isBlank c.toLower = false) : isBlank c = false := by
  by_cases hupper : c.isUpper = true
  · exact isBlank_of_isUpper hupper
  · rwa [Char.toLower_eq_of_not_isUpper hupper] at h

theorem not_blank_of_marker {mark : List Char} (h : lower mark = lower marker.toList) :
    ∀ c ∈ mark, isBlank c = false := by
  have hmarker : ((lower marker.toList).all fun c => !isBlank c) = true := by decide +kernel
  intro c hc
  have hmem : c.toLower ∈ lower marker.toList := h ▸ List.mem_map_of_mem hc
  exact isBlank_of_toLower (by simpa using List.all_eq_true.mp hmarker _ hmem)

theorem not_blank_of_isPath (h : IsPath ks) : ∀ c ∈ joined ks, isBlank c = false := by
  induction h with
  | last hk =>
      rw [joined, List.intercalate_singleton]
      exact fun c hc => (hk.plain c hc).2
  | cons hk hlast hks ih =>
      rw [joined_cons hks.ne_nil]
      refine List.forall_mem_append.mpr ⟨fun c hc => (hk.plain c hc).2, ?_⟩
      exact List.forall_mem_cons.mpr ⟨rfl, List.forall_mem_cons.mpr ⟨rfl, ih⟩⟩

theorem stripMarker?_eq_some_iff {ms cs : List Char} :
    stripMarker? ms cs = some rest ↔ ∃ mark, lower mark = lower ms ∧ mark ++ rest = cs := by
  induction ms generalizing cs with
  | nil => simp [stripMarker?, lower, eq_comm]
  | cons m ms ih =>
      cases cs with
      | nil => simp [stripMarker?, lower]
      | cons c cs =>
          rw [stripMarker?]
          split_ifs with hc
          · rw [ih]
            constructor
            · rintro ⟨mark, hmark, rfl⟩
              exact ⟨c :: mark, congrArg₂ List.cons hc.symm hmark, rfl⟩
            · rintro ⟨mark, hmark, hcs⟩
              cases mark with
              | nil => cases hmark
              | cons d mark =>
                  obtain ⟨-, hcs⟩ := List.cons.inj hcs
                  exact ⟨mark, (List.cons.inj hmark).2, hcs⟩
          · refine iff_of_false (fun h => nomatch h) ?_
            rintro ⟨mark, hmark, hcs⟩
            cases mark with
            | nil => cases hmark
            | cons d mark =>
                obtain ⟨rfl, -⟩ := List.cons.inj hcs
                exact hc (List.cons.inj hmark).1.symm

theorem Names.path_ne_nil (h : Names name path) : path ≠ [] := by
  obtain ⟨-, hks⟩ := h
  exact mt List.map_eq_nil_iff.mp hks.ne_nil

/-- A name is read as the path that it is a name for. -/
theorem Names.path?_eq (h : Names name path) : path? name = some path := by
  obtain @⟨mark, ks, hmark, hks⟩ := h
  have hjoined := not_blank_of_isPath hks
  have htrim : trimBlanks (mark ++ joined ks) = mark ++ joined ks :=
    (tight_of_forall (List.forall_mem_append.mpr ⟨not_blank_of_marker hmark, hjoined⟩)).trimBlanks_eq
  have hstrip : stripMarker? marker.toList (mark ++ joined ks) = some (joined ks) :=
    stripMarker?_eq_some_iff.mpr ⟨mark, hmark, rfl⟩
  have hnone : ks.any List.isEmpty = false :=
    List.any_eq_false.mpr fun k hk => by simpa using (hks.isKey k hk).ne_nil
  rw [path?, String.toList_ofList, htrim, hstrip]
  simp only [Option.bind_eq_bind, Option.bind_some, (tight_of_forall hjoined).trimBlanks_eq,
    segments_joined hks, hnone]
  rfl

theorem lower_joined (ks : List (List Char)) : lower (joined ks) = joined (ks.map lower) := by
  induction ks with
  | nil => rfl
  | cons k ks ih =>
      rcases eq_or_ne ks [] with rfl | hne
      · simp only [List.map_cons, List.map_nil, joined, List.intercalate_singleton]
      · rw [joined_cons hne, List.map_cons, joined_cons (mt List.map_eq_nil_iff.mp hne), ← ih]
        simp only [lower, List.map_append, List.map_cons]
        rfl

/-- The path of a name says all of it but which letters are large. -/
theorem Names.lower_eq (h : Names name path) :
    lower name.toList = lower marker.toList ++ joined (path.map String.toList) := by
  obtain @⟨mark, ks, hmark, hks⟩ := h
  have hkeys : (ks.map fun k => String.ofList (lower k)).map String.toList = ks.map lower := by
    rw [List.map_map]
    exact List.map_congr_left fun k _ => String.toList_ofList
  rw [String.toList_ofList, hkeys, lower, List.map_append, ← lower, hmark, ← lower, lower_joined]

/-! ## Variables -/

/-- A variable for a path. -/
structure Variable where
  name : String
  path : List String
  text : String
  names : Names name path

/-- A variable as the environment has it. -/
def Variable.entry (x : Variable) : String × String := (x.name, x.text)

/-- What a variable says. -/
def Variable.value (x : Variable) : Setting := Written.read x.text

/-- What variables say of a path. -/
def value? (xs : List Variable) (path : List String) : Option Setting :=
  (xs.find? (·.path == path)).map Variable.value

/-- A name that does not start with the marker, blanks in front of it left aside. -/
def Foreign (name : String) : Prop :=
  ∀ mark rest, trimBlanks name.toList = mark ++ rest → lower mark ≠ lower marker.toList

/-- An environment with some variables, all others of which are foreign. -/
structure Holds (environment : List (String × String)) (xs : List Variable) : Prop where
  mem : ∀ x ∈ xs, x.entry ∈ environment
  only : ∀ e ∈ environment, (∃ x ∈ xs, x.entry = e) ∨ Foreign e.1

theorem Foreign.path?_eq (h : Foreign name) : path? name = none := by
  have hstrip : stripMarker? marker.toList (trimBlanks name.toList) = none := by
    rw [Option.eq_none_iff_forall_ne_some]
    intro rest hrest
    obtain ⟨mark, hmark, hname⟩ := stripMarker?_eq_some_iff.mp hrest
    exact h mark rest hname.symm hmark
  rw [path?, hstrip]
  rfl

/-- Lays a variable over what the ones before it say. -/
def lay (t : Setting) (e : String × String) : Setting :=
  match path? e.1 with
  | some path => t.overlay (.nested path (Written.read e.2))
  | none => t

variable {P : List String → Prop} {es : Entries} {entries environment : List (String × String)}
  {xs : List Variable}

/-- What the last variable for a path says. -/
def last? (entries : List (String × String)) (path : List String) : Option Setting :=
  (entries.reverse.find? fun e => path? e.1 == some path).map fun e => Written.read e.2

/-- What a variable says is found at its path, and all else stays. -/
theorem exists_lay (hP : PrefixFree P) (h : Forest es) (hes : Within P (table es)) {e : String × String}
    (he : ∀ path, path? e.1 = some path → path ≠ [] ∧ P path ∧ (Written.read e.2).isScalar = true) :
    ∃ es', lay (table es) e = table es' ∧ Forest es' ∧ Within P (table es') ∧
      ∀ path, (table es').scalar? path = (last? [e] path).or ((table es).scalar? path) := by
  rw [lay]
  cases hpath : path? e.1 with
  | none =>
      refine ⟨es, rfl, h, hes, fun path => ?_⟩
      simp [last?, hpath]
  | some path =>
      obtain ⟨hne, hPpath, hscalar⟩ := he path hpath
      obtain ⟨n, path, rfl⟩ := List.exists_cons_of_ne_nil hne
      have hnested : nested (n :: path) (Written.read e.2) = table [(n, nested path (Written.read e.2))] :=
        rfl
      have hforest : Forest [(n, nested path (Written.read e.2))] := (tree_nested (n :: path) hscalar).forest.2
      have hwithin : Within P (table [(n, nested path (Written.read e.2))]) := by
        intro p w hw
        rw [← hnested, scalar?_nested _ _ hscalar] at hw
        split_ifs at hw with hp
        exact hp ▸ hPpath
      simp only [hnested, overlay]
      refine ⟨_, rfl, h.overlay hforest, hes.overlay hP h hforest hwithin, fun p => ?_⟩
      rw [scalar?_overlayEntries hP h hforest hes hwithin, ← hnested, scalar?_nested _ _ hscalar]
      congr 1
      by_cases hp : p = n :: path
      · simp [last?, hpath, hp]
      · simp [last?, hpath, hp, Ne.symm hp]

theorem last?_cons (e : String × String) (entries : List (String × String)) (path : List String) :
    last? (e :: entries) path = (last? entries path).or (last? [e] path) := by
  simp only [last?, List.reverse_cons, List.find?_append, List.reverse_nil, List.nil_append]
  cases entries.reverse.find? fun e => path? e.1 == some path <;> rfl

/-- What the last variable for a path says is found there. -/
theorem exists_foldl_lay (hP : PrefixFree P) (h : Forest es) (hes : Within P (table es))
    (hentries : ∀ e ∈ entries, ∀ path, path? e.1 = some path →
      path ≠ [] ∧ P path ∧ (Written.read e.2).isScalar = true) :
    ∃ es', entries.foldl lay (table es) = table es' ∧ Forest es' ∧ Within P (table es') ∧
      ∀ path, (table es').scalar? path = (last? entries path).or ((table es).scalar? path) := by
  induction entries generalizing es with
  | nil => exact ⟨es, rfl, h, hes, fun path => rfl⟩
  | cons e entries ih =>
      obtain ⟨he, hentries⟩ := List.forall_mem_cons.mp hentries
      obtain ⟨es', hlay, h', hes', hpath⟩ := exists_lay hP h hes he
      obtain ⟨es'', hfold, h'', hes'', hpath'⟩ := ih h' hes' hentries
      refine ⟨es'', ?_, h'', hes'', fun path => ?_⟩
      · rw [List.foldl_cons, hlay, hfold]
      · rw [hpath', hpath, last?_cons e entries, Option.or_assoc]

/-- Names that are not equal up to the letters are names for different paths. -/
theorem nodup_path (h : xs.Pairwise fun x y => lower x.name.toList ≠ lower y.name.toList) :
    (xs.map Variable.path).Nodup := by
  refine List.pairwise_map.mpr (h.imp fun {x y} hne heq => hne ?_)
  rw [x.names.lower_eq, y.names.lower_eq, heq]

/-- Where every path has one variable, the order of the variables does not matter. -/
theorem last?_eq_value? (h : Holds entries xs) (hdistinct : (xs.map Variable.path).Nodup) :
    last? entries path = value? xs path := by
  have hfound : ∀ e ∈ entries, path? e.1 = some path → ∃ x ∈ xs, x.entry = e ∧ x.path = path := by
    intro e he hpath
    rcases h.only e he with ⟨x, hx, rfl⟩ | hforeign
    · exact ⟨x, hx, rfl, Option.some.inj (x.names.path?_eq.symm.trans hpath)⟩
    · cases hforeign.path?_eq.symm.trans hpath
  rw [last?, value?]
  cases hfind : xs.find? (·.path == path) with
  | none =>
      have hnone : (entries.reverse.find? fun e => path? e.1 == some path) = none := by
        refine List.find?_eq_none.mpr fun e he hpath => ?_
        obtain ⟨x, hx, -, hxpath⟩ := hfound e (List.mem_reverse.mp he) (eq_of_beq hpath)
        exact List.find?_eq_none.mp hfind x hx (beq_iff_eq.mpr hxpath)
      rw [hnone]
      rfl
  | some x =>
      have hx := List.mem_of_find?_eq_some hfind
      have hxpath := List.find?_some hfind
      have hsome : (entries.reverse.find? fun e => path? e.1 == some path).isSome := by
        refine List.find?_isSome.mpr ⟨x.entry, List.mem_reverse.mpr (h.mem x hx), ?_⟩
        exact beq_iff_eq.mpr (x.names.path?_eq.trans (congrArg some (eq_of_beq hxpath)))
      obtain ⟨e, he⟩ := Option.isSome_iff_exists.mp hsome
      have hpath := List.find?_some he
      obtain ⟨y, hy, rfl, hypath⟩ := hfound e (List.mem_reverse.mp (List.mem_of_find?_eq_some he))
        (eq_of_beq hpath)
      rw [he, List.inj_on_of_nodup_map hdistinct hx hy ((eq_of_beq hxpath).trans hypath.symm)]
      rfl

/-- The settings of an environment are those of its variables, if no two of their names are equal up to the
letters. -/
theorem exists_settings (hP : PrefixFree P) (h : Holds environment xs)
    (hdistinct : xs.Pairwise fun x y => lower x.name.toList ≠ lower y.name.toList)
    (hxs : ∀ x ∈ xs, P x.path ∧ x.value.isScalar = true) :
    ∃ es, settings environment = table es ∧ Forest es ∧ Within P (table es) ∧
      ∀ path, (table es).scalar? path = value? xs path := by
  have hsorted : Holds (environment.mergeSort fun a b => a.1 ≤ b.1) xs :=
    ⟨fun x hx => List.mem_mergeSort.mpr (h.mem x hx), fun e he => h.only e (List.mem_mergeSort.mp he)⟩
  have hentries : ∀ e ∈ environment.mergeSort fun a b => a.1 ≤ b.1, ∀ path, path? e.1 = some path →
      path ≠ [] ∧ P path ∧ (Written.read e.2).isScalar = true := by
    intro e he path hpath
    rcases hsorted.only e he with ⟨x, hx, rfl⟩ | hforeign
    · obtain rfl := Option.some.inj (x.names.path?_eq.symm.trans hpath)
      exact ⟨x.names.path_ne_nil, hxs x hx⟩
    · cases hforeign.path?_eq.symm.trans hpath
  have hnone : Within P (table []) := by
    rintro (_ | ⟨n, path⟩) w hw <;> cases hw
  have hempty : Forest [] := ⟨List.Pairwise.nil, fun e he => nomatch he⟩
  obtain ⟨es, hes, hforest, hwithin, hpath⟩ := exists_foldl_lay hP hempty hnone hentries
  refine ⟨es, hes, hforest, hwithin, fun path => ?_⟩
  rw [hpath, last?_eq_value? hsorted (nodup_path hdistinct)]
  cases path <;> exact Option.or_none

end ExprGateway.Environment
