import ExprGateway.Config.Layers
import ExprGateway.Proofs.Config.Documents
import ExprGateway.Proofs.Config.Leaves
import ExprGateway.Proofs.Config.Variables

/-!
# Layers, leaf by leaf

A file and the variables of the environment say scalars at paths.  Where no path ends on the way of
another one, and none goes below a leaf, a configuration is loaded exactly if every path is that of a leaf,
and at every leaf the scalar that counts is decoded as its value: that of the variable, or else that of the
file, or else the default.  Each leaf of the configuration is this value (`load_resolves`), whatever the
others are and whatever stands below it in a lower layer.

The two layers laid over one another are one tree (`Layered.exists_merged`), which is decoded leaf by leaf.
-/

namespace ExprGateway

open Setting Environment

namespace AppConfig

/-- The settings that a file holds, or none. -/
inductive Says : Option String → Setting → Prop where
  | nothing : Says none (.table [])
  | document {text : String} {doc : Setting} : Yaml.read text = .ok doc → Says (some text) doc

/-- The defaults as settings. -/
def defaults : Setting := .ofJson ({} : AppConfig).toJson

/-- A path that the file or a variable says something of. -/
def Assigned (doc : Setting) (xs : List Variable) (path : List String) : Prop :=
  (∃ x ∈ xs, x.path = path) ∨ ∃ v, doc.scalar? path = some v

/-- The scalar that counts at a path. -/
def winning (doc : Setting) (xs : List Variable) (path : List String) : Option Setting :=
  (value? xs path).or ((doc.scalar? path).or (defaults.scalar? path))

/-- A file that is a mapping of scalars and of mappings that are not empty, and variables with scalars and
with names that differ in more than their letters.  No path ends on the way of another one or goes below a
leaf. -/
structure Layered (file : Option String) (environment : List (String × String)) (doc : Setting)
    (xs : List Variable) : Prop where
  file : Says file doc
  mapping : ∃ es, doc = .table es ∧ ∀ e ∈ es, Plain e.2
  environment : Environment.Holds environment xs
  distinct : xs.Pairwise fun x y => lower x.name.toList ≠ lower y.name.toList
  scalars : ∀ x ∈ xs, x.value.isScalar = true
  prefixFree : PrefixFree (Assigned doc xs)
  clear : ∀ path, Assigned doc xs path → ∀ l ∈ leaves, l.path <+: path → l.path = path

variable {file : Option String} {environment : List (String × String)} {doc : Setting}
  {xs : List Variable} {es : Entries} {a : AppConfig}

/-! ## One tree -/

theorem Says.load_eq_ok_iff (h : Says file doc) :
    load file environment = .ok a ↔
      Decoder.app .layers (doc.overlay (settings environment)) = .ok a := by
  cases h with
  | nothing => exact mapError_eq_ok_iff
  | document h =>
      rw [load, h]
      exact mapError_eq_ok_iff

theorem Says.ordered (h : Says file doc) : Ordered doc := by
  cases h with
  | nothing => exact .table List.Pairwise.nil fun e he => nomatch he
  | document h => exact Yaml.ordered_of_read h

theorem assigned_iff {path : List String} :
    Assigned doc xs path ↔ ∃ v, (value? xs path).or (doc.scalar? path) = some v := by
  have hvariable : (∃ x ∈ xs, x.path = path) ↔ (value? xs path).isSome := by
    simp [value?, List.find?_isSome]
  rw [Assigned, hvariable, ← Option.isSome_iff_exists, ← Option.isSome_iff_exists, Option.isSome_or,
    Bool.or_eq_true]

/-- The file with the variables laid over it is a tree, and says what the variables say or else the
file. -/
theorem Layered.exists_merged (h : Layered file environment doc xs) :
    ∃ es, doc.overlay (settings environment) = table es ∧ Forest es ∧
      ∀ path, (table es).scalar? path = (value? xs path).or (doc.scalar? path) := by
  have hvariables : ∀ x ∈ xs, Assigned doc xs x.path ∧ x.value.isScalar = true :=
    fun x hx => ⟨.inl ⟨x, hx, rfl⟩, h.scalars x hx⟩
  obtain ⟨later, hlater, hforest', hwithin', hpath⟩ :=
    exists_settings h.prefixFree h.environment h.distinct hvariables
  obtain ⟨earlier, rfl, hplain⟩ := h.mapping
  have hforest : Forest earlier := by
    cases h.file.ordered with
    | scalar hs => cases hs
    | table hsorted hes => exact ⟨hsorted, fun e he => (hplain e he).tree (hes e he)⟩
  have hwithin : Within (Assigned (table earlier) xs) (table earlier) :=
    fun path v hv => .inr ⟨v, hv⟩
  refine ⟨overlayEntries earlier later, ?_, hforest.overlay hforest', fun path => ?_⟩
  · rw [hlater, overlay]
  · rw [scalar?_overlayEntries h.prefixFree hforest hforest' hwithin hwithin', hpath]

/-! ## The leaves -/

theorem prefixFree_leaves : ∀ k ∈ leaves, ∀ l ∈ leaves, k.path <+: l.path → k.path = l.path := by decide

/-- Layers that say nothing but leaves leave each other room. -/
theorem Layered.of_leaves (hfile : Says file doc) (hmapping : ∃ es, doc = .table es ∧ ∀ e ∈ es, Plain e.2)
    (hholds : Environment.Holds environment xs)
    (hdistinct : xs.Pairwise fun x y => lower x.name.toList ≠ lower y.name.toList)
    (hscalars : ∀ x ∈ xs, x.value.isScalar = true)
    (h : ∀ path, Assigned doc xs path → ∃ l ∈ leaves, l.path = path) :
    Layered file environment doc xs where
  file := hfile
  mapping := hmapping
  environment := hholds
  distinct := hdistinct
  scalars := hscalars
  prefixFree := by
    intro p q hp hq hpre
    obtain ⟨k, hk, rfl⟩ := h p hp
    obtain ⟨l, hl, rfl⟩ := h q hq
    exact prefixFree_leaves k hk l hl hpre
  clear := by
    intro p hp l hl hpre
    obtain ⟨k, hk, rfl⟩ := h p hp
    exact prefixFree_leaves l hl k hk hpre

/-! ## The defaults -/

/-- Every default is decoded as itself. -/
theorem defaults_decode : ∀ l ∈ leaves, ∃ v, defaults.scalar? l.path = some v ∧
    l.decoder .layers v = .ok (l.get {}) := by
  simp only [leaves, List.forall_mem_cons]
  exact ⟨⟨_, rfl, rfl⟩, ⟨_, rfl, rfl⟩, ⟨_, rfl, rfl⟩, ⟨_, rfl, rfl⟩, ⟨_, rfl, rfl⟩, ⟨_, rfl, rfl⟩,
    ⟨_, rfl, rfl⟩, ⟨_, rfl, rfl⟩, ⟨_, rfl, rfl⟩, ⟨_, rfl, rfl⟩, ⟨_, rfl, rfl⟩, ⟨_, rfl, rfl⟩,
    List.forall_mem_nil _⟩

/-- Where no layer says anything, the default counts, which is decoded: only the other leaves may fail. -/
theorem exists_decode_of_assigned (h : ∀ l ∈ leaves, Assigned doc xs l.path →
      ∃ v ∈ winning doc xs l.path, ∃ x, l.decoder .layers v = .ok x) :
    ∀ l ∈ leaves, ∃ v ∈ winning doc xs l.path, ∃ x, l.decoder .layers v = .ok x := by
  intro l hl
  by_cases hassigned : Assigned doc xs l.path
  · exact h l hl hassigned
  · have hnone : (value? xs l.path).or (doc.scalar? l.path) = none := by
      by_contra hsome
      exact hassigned (assigned_iff.mpr (Option.ne_none_iff_exists'.mp hsome))
    obtain ⟨v, hv, hx⟩ := defaults_decode l hl
    rw [winning, ← Option.or_assoc, hnone, Option.none_or]
    exact ⟨v, hv, _, hx⟩

theorem nodup_path_leaves : (leaves.map Leaf.path).Nodup := by decide

/-- A tree fits exactly if all its paths are those of leaves, and at each leaf the scalar in it is decoded,
or else the default. -/
theorem fits_leaves_iff {v : Setting} :
    Fits v leaves ↔ (∀ path w, v.scalar? path = some w → ∃ l ∈ leaves, l.path = path) ∧
      ∀ l ∈ leaves, ∃ w ∈ (v.scalar? l.path).or (defaults.scalar? l.path),
        ∃ x, l.decoder .layers w = .ok x := by
  constructor
  · intro h
    refine ⟨fun path w hw => ?_, fun l hl => ?_⟩
    · obtain ⟨l, hl, hpath, -⟩ := h path w hw
      exact ⟨l, hl, hpath⟩
    · cases hw : v.scalar? l.path with
      | none =>
          obtain ⟨w, hdefault, hx⟩ := defaults_decode l hl
          exact ⟨w, hdefault, _, hx⟩
      | some w =>
          obtain ⟨k, hk, hpath, hx⟩ := h l.path w hw
          obtain rfl := List.inj_on_of_nodup_map nodup_path_leaves hk hl hpath
          exact ⟨w, rfl, hx⟩
  · rintro ⟨hpaths, hvalues⟩ path w hw
    obtain ⟨l, hl, rfl⟩ := hpaths path w hw
    obtain ⟨u, hu, hx⟩ := hvalues l hl
    rw [hw] at hu
    obtain rfl := Option.some.inj hu
    exact ⟨l, hl, rfl, hx⟩

theorem decode_of_reads {l : Leaf AppConfig} (hl : l ∈ leaves) {found : Option Setting}
    (h : l.Reads {} a found) :
    ∃ w ∈ found.or (defaults.scalar? l.path), l.decoder .layers w = .ok (l.get a) := by
  cases found with
  | none =>
      obtain ⟨w, hdefault, hx⟩ := defaults_decode l hl
      exact ⟨w, hdefault, hx.trans (congrArg Except.ok (Eq.symm h))⟩
  | some w => exact ⟨w, rfl, h⟩

/-! ## The configuration -/

/-- Another port is nothing but another port. -/
theorem withPort_leaves (a : AppConfig) (port : Option Nat) :
    (a.withPort port).server.bindAddress =
        { a.server.bindAddress with port := port.getD a.server.bindAddress.port } ∧
      ∀ l ∈ leaves, l.path ≠ ["server", "bind_addr"] → l.get (a.withPort port) = l.get a := by
  cases port with
  | none => exact ⟨rfl, fun _ _ _ => rfl⟩
  | some port =>
      refine ⟨rfl, ?_⟩
      simp only [leaves, List.forall_mem_cons]
      exact ⟨fun h => absurd rfl h, fun _ => rfl, fun _ => rfl, fun _ => rfl, fun _ => rfl, fun _ => rfl,
        fun _ => rfl, fun _ => rfl, fun _ => rfl, fun _ => rfl, fun _ => rfl, fun _ => rfl,
        List.forall_mem_nil _⟩

/-- Layers make a configuration exactly if all that they say is at leaves, and at every leaf the value that
counts is one of its type.  This value is the leaf of the configuration; a port that is given takes the
place of that in the address, and changes nothing else. -/
theorem load_resolves (h : Layered file environment doc xs) :
    ((∃ a, load file environment = .ok a) ↔
      (∀ path, Assigned doc xs path → ∃ l ∈ leaves, l.path = path) ∧
        ∀ l ∈ leaves, ∃ v ∈ winning doc xs l.path, ∃ x, l.decoder .layers v = .ok x) ∧
      ∀ a, load file environment = .ok a →
        (∀ l ∈ leaves, ∃ v ∈ winning doc xs l.path, l.decoder .layers v = .ok (l.get a)) ∧
        ∀ port,
          (a.withPort port).server.bindAddress =
              { a.server.bindAddress with port := port.getD a.server.bindAddress.port } ∧
            ∀ l ∈ leaves, l.path ≠ ["server", "bind_addr"] → l.get (a.withPort port) = l.get a := by
  obtain ⟨es, hmerged, hforest, hscalar⟩ := h.exists_merged
  have hclear : Clear (table es) leaves := fun path v hv =>
    h.clear path (assigned_iff.mpr ⟨v, hscalar path ▸ hv⟩)
  have hwinning : ∀ path, ((table es).scalar? path).or (defaults.scalar? path) = winning doc xs path := by
    intro path
    rw [hscalar, Option.or_assoc, winning]
  simp only [h.file.load_eq_ok_iff, hmerged]
  constructor
  · rw [Decoder.app, Decoder.appFields_eq,
      record_table_fits Decoder.independent_app Decoder.leafwise_app hforest hclear, leavesOf_appParts,
      fits_leaves_iff]
    simp only [hwinning]
    simp only [hscalar, assigned_iff, forall_exists_index]
  · intro a ha
    refine ⟨fun l hl => ?_, withPort_leaves a⟩
    have hread := record_table_reads Decoder.independent_app Decoder.leafwise_app hforest hclear ha l hl
    rw [← hwinning]
    exact decode_of_reads hl hread

/-- A file with a number for the level of the log: it is no level, and does no harm under a variable with
a text. -/
theorem load_resolves_masked :
    ∃ a, load (some "logging:\n  level: 5\n") [("CALC_GATEWAY__LOGGING__LEVEL", "warn")] = .ok a ∧
      a.logging.level = "warn" ∧ (a.withPort (some 8080)).logging.level = "warn" := by
  have hkey : IsKey "LOGGING".toList ∧ IsKey "LEVEL".toList :=
    ⟨⟨by simp, by simp [isBlank], by decide⟩, ⟨by simp, by simp [isBlank], by decide⟩⟩
  have hnames : Names "CALC_GATEWAY__LOGGING__LEVEL" ["logging", "level"] :=
    @Names.intro marker.toList _ rfl (.cons hkey.1 (by decide) (.last hkey.2))
  let x : Variable := ⟨"CALC_GATEWAY__LOGGING__LEVEL", ["logging", "level"], "warn", hnames⟩
  let doc := nested ["logging", "level"] (.unsigned 5)
  let level : Leaf AppConfig := ⟨["logging", "level"], Decoder.string, (·.logging.level)⟩
  have hdoc : Yaml.read "logging:\n  level: 5\n" = .ok doc := by cbv
  have hwarn : x.value = .text "warn" := by cbv
  have hlevel : level ∈ leaves := List.mem_cons_of_mem _ List.mem_cons_self
  have hpath : ∀ path, Assigned doc [x] path → path = level.path := by
    rintro path (⟨y, hy, rfl⟩ | ⟨v, hv⟩)
    · obtain rfl := List.mem_singleton.mp hy
      rfl
    · rw [scalar?_nested _ _ rfl] at hv
      split_ifs at hv with hpath
      exact hpath
  have hpaths : ∀ path, Assigned doc [x] path → ∃ l ∈ leaves, l.path = path :=
    fun path h => ⟨level, hlevel, (hpath path h).symm⟩
  have hlayered : Layered (some "logging:\n  level: 5\n") [("CALC_GATEWAY__LOGGING__LEVEL", "warn")]
      doc [x] := by
    refine .of_leaves (.document hdoc) ⟨_, rfl, ?_⟩ ⟨by simp [Variable.entry, x], ?_⟩
      (List.pairwise_singleton _ _) (List.forall_mem_singleton.mpr (congrArg isScalar hwarn)) hpaths
    · exact List.forall_mem_singleton.mpr (.table (List.cons_ne_nil _ _)
        (List.forall_mem_singleton.mpr (.scalar rfl)))
    · simp [Variable.entry, x]
  have hwinning : winning doc [x] level.path = some (.text "warn") := by
    have hvalue : value? [x] level.path = some x.value := rfl
    rw [winning, hvalue, hwarn, Option.some_or]
  obtain ⟨hload, hleaf⟩ := load_resolves hlayered
  have hdecode : ∀ l ∈ leaves, ∃ v ∈ winning doc [x] l.path, ∃ b, l.decoder .layers v = .ok b := by
    refine exists_decode_of_assigned fun l hl h => ?_
    obtain rfl := List.inj_on_of_nodup_map nodup_path_leaves hl hlevel (hpath _ h)
    exact ⟨_, hwinning, _, rfl⟩
  obtain ⟨a, ha⟩ := hload.mpr ⟨hpaths, hdecode⟩
  obtain ⟨hvalues, hport⟩ := hleaf a ha
  obtain ⟨v, hv, hlevelRead⟩ := hvalues level hlevel
  obtain rfl := Option.some.inj (hv.symm.trans hwinning)
  have hlevelWarn : "warn" = a.logging.level := Except.ok.inj hlevelRead
  exact ⟨a, ha, hlevelWarn.symm, ((hport _).2 level hlevel (by decide)).trans hlevelWarn.symm⟩

end AppConfig

end ExprGateway
