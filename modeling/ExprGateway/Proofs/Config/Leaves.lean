import ExprGateway.Proofs.Config.Schema

/-!
# Leaf by leaf

What a tree of settings is decoded as can be said without the records in between: every scalar has to
stand at a leaf and to be decoded as its value (`Fits`), and then a leaf is the scalar at its path, or what
it was before (`Leaf.Reads`).  A decoder of which this holds is `Leafwise`.  A decoder of scalars is, and
the record of parts that are (`leafwise_record`); so the whole configuration is.

No scalar may stand below a leaf (`Clear`): there the decoder of the leaf would see a table.
-/

namespace ExprGateway

open Setting

section Leafwise

variable {α : Type} {leaves : List (Leaf α)} {parts : List (Part α)} {dec : Decoder α} {start a : α}
  {es : Entries} {v : Setting} {typeName : String}

/-- A leaf of a part, seen from the record. -/
def Part.lift (p : Part α) (l : Leaf p.Value) : Leaf α := ⟨p.name :: l.path, l.decoder, l.get ∘ p.get⟩

/-- What a leaf is if a scalar stands at its path or not. -/
def Leaf.Reads (l : Leaf α) (start a : α) : Option Setting → Prop
  | some v => l.decoder .layers v = .ok (l.get a)
  | none => l.get a = l.get start

/-- Every scalar stands at a leaf and is decoded as its value. -/
def Fits (v : Setting) (leaves : List (Leaf α)) : Prop :=
  ∀ path w, v.scalar? path = some w → ∃ l ∈ leaves, l.path = path ∧ ∃ x, l.decoder .layers w = .ok x

/-- No scalar stands below a leaf. -/
def Clear (v : Setting) (leaves : List (Leaf α)) : Prop :=
  ∀ path w, v.scalar? path = some w → ∀ l ∈ leaves, l.path <+: path → l.path = path

/-- A decoder that takes trees leaf by leaf. -/
structure Leafwise (dec : Decoder α) (start : α) (leaves : List (Leaf α)) : Prop where
  fits : ∀ v, Setting.Tree v → Clear v leaves → ((∃ a, dec .layers v = .ok a) ↔ Fits v leaves)
  reads : ∀ v a, Setting.Tree v → Clear v leaves → dec .layers v = .ok a →
    ∀ l ∈ leaves, l.Reads start a (v.scalar? l.path)

theorem mem_leavesOf {l : Leaf α} :
    l ∈ leavesOf parts ↔ ∃ p ∈ parts, ∃ k ∈ p.leaves, p.lift k = l := by
  simp only [leavesOf, List.mem_flatMap, List.mem_map, Part.lift]

/-- Below the name of a part there is room for its own leaves alone. -/
theorem Clear.of_lookup (h : Clear (table es) (leavesOf parts)) {p : Part α} (hp : p ∈ parts)
    (hv : es.lookup p.name = some v) : Clear v p.leaves := by
  intro path w hw l hl hpre
  have hw' : (table es).scalar? (p.name :: path) = some w := by
    rw [scalar?_table_cons, hv]
    exact hw
  have heq := h _ w hw' (p.lift l) (mem_leavesOf.mpr ⟨p, hp, l, hl, rfl⟩)
    ((List.prefix_cons_inj _).mpr hpre)
  exact (List.cons.inj heq).2

/-- A table fits exactly if each of its entries is that of a part and fits the leaves of this part. -/
theorem fits_table_iff (hp : Independent parts) (h : Forest es) :
    Fits (table es) (leavesOf parts) ↔ ∀ e ∈ es, ∃ p ∈ parts, p.name = e.1 ∧ Fits e.2 p.leaves := by
  constructor
  · intro hfits e he
    have hlookup := (lookup_eq_some_iff h.sorted.nodup).mpr he
    have hleaf : ∀ path w, e.2.scalar? path = some w → ∃ p ∈ parts, p.name = e.1 ∧
        ∃ l ∈ p.leaves, l.path = path ∧ ∃ x, l.decoder .layers w = .ok x := by
      intro path w hw
      have hw' : (table es).scalar? (e.1 :: path) = some w := by
        rw [scalar?_table_cons, hlookup]
        exact hw
      obtain ⟨l, hl, hpath, hx⟩ := hfits _ w hw'
      obtain ⟨p, hpart, k, hk, rfl⟩ := mem_leavesOf.mp hl
      obtain ⟨hname, hpath⟩ := List.cons.inj hpath
      exact ⟨p, hpart, hname, k, hk, hpath, hx⟩
    obtain ⟨path, w, hw⟩ := (h.trees e he).exists_scalar?
    obtain ⟨p, hpart, hname, -⟩ := hleaf path w hw
    refine ⟨p, hpart, hname, fun path w hw => ?_⟩
    obtain ⟨q, hq, hname', hl⟩ := hleaf path w hw
    obtain rfl := hp.eq_of_name hpart hq (hname.trans hname'.symm)
    exact hl
  · intro hall path w hw
    cases path with
    | nil => cases hw
    | cons n path =>
        obtain ⟨v, hv, hw'⟩ := Option.bind_eq_some_iff.mp hw
        obtain ⟨p, hpart, rfl, hfits⟩ := hall _ (mem_of_lookup hv)
        obtain ⟨l, hl, rfl, hx⟩ := hfits path w hw'
        exact ⟨p.lift l, mem_leavesOf.mpr ⟨p, hpart, l, hl, rfl⟩, rfl, hx⟩

/-- A table is decoded as a record exactly if it fits. -/
theorem record_table_fits (hp : Independent parts)
    (hparts : ∀ p ∈ parts, Leafwise p.decoder (p.get start) p.leaves) (h : Forest es)
    (hclear : Clear (table es) (leavesOf parts)) :
    (∃ a, Decoder.record typeName (parts.map Part.field) start .layers (.table es) = .ok a) ↔
      Fits (table es) (leavesOf parts) := by
  rw [exists_record_table hp, fits_table_iff hp h]
  refine forall₂_congr fun e he => exists_congr fun p => and_congr_right fun hpart =>
    and_congr_right fun hname => ?_
  have hlookup : es.lookup p.name = some e.2 := by
    rw [hname]
    exact (lookup_eq_some_iff h.sorted.nodup).mpr he
  exact (hparts p hpart).fits e.2 (h.trees e he) (hclear.of_lookup hpart hlookup)

/-- The leaves of the record that a table is decoded as. -/
theorem record_table_reads (hp : Independent parts)
    (hparts : ∀ p ∈ parts, Leafwise p.decoder (p.get start) p.leaves) (h : Forest es)
    (hclear : Clear (table es) (leavesOf parts))
    (hok : Decoder.record typeName (parts.map Part.field) start .layers (.table es) = .ok a) :
    ∀ l ∈ leavesOf parts, l.Reads start a ((table es).scalar? l.path) := by
  intro l hl
  obtain ⟨p, hpart, k, hk, rfl⟩ := mem_leavesOf.mp hl
  have hread := ((record_table_eq_ok_iff hp h.sorted.nodup).mp hok).2 p hpart
  have hpath : (table es).scalar? (p.lift k).path = (es.lookup p.name).bind (·.scalar? k.path) := rfl
  rw [hpath]
  cases hv : es.lookup p.name with
  | none =>
      rw [hv] at hread
      exact congrArg k.get hread
  | some v =>
      rw [hv] at hread
      have hk' := (hparts p hpart).reads v (p.get a) (h.of_lookup hv) (hclear.of_lookup hpart hv) hread
        k hk
      rw [Option.bind_some]
      cases hw : v.scalar? k.path with
      | none =>
          rw [hw] at hk'
          exact hk'
      | some w =>
          rw [hw] at hk'
          exact hk'

/-- A decoder of scalars takes trees leaf by leaf: it is a leaf, and no table is clear of it. -/
theorem leafwise_leaf (dec : Decoder α) (start : α) : Leafwise dec start [⟨[], dec, id⟩] := by
  have htable : ∀ es, Setting.Tree (.table es) → ¬ Clear (.table es) [(⟨[], dec, id⟩ : Leaf α)] := by
    intro es htree hclear
    obtain ⟨path, w, hw⟩ := htree.exists_scalar?
    obtain rfl : [] = path := hclear path w hw _ List.mem_cons_self List.nil_prefix
    cases hw
  constructor
  · intro v hv hclear
    cases hv with
    | table hne hsorted htrees => exact absurd hclear (htable _ (.table hne hsorted htrees))
    | scalar hs =>
        simp only [Fits, scalar?_of_isScalar hs]
        constructor
        · intro hok path w hw
          split_ifs at hw with hpath
          obtain rfl := Option.some.inj hw
          exact ⟨_, List.mem_cons_self, hpath.symm, hok⟩
        · intro hfits
          obtain ⟨l, hl, -, hx⟩ := hfits [] v (if_pos rfl)
          obtain rfl := List.mem_singleton.mp hl
          exact hx
  · intro v a hv hclear hok
    cases hv with
    | table hne hsorted htrees => exact absurd hclear (htable _ (.table hne hsorted htrees))
    | scalar hs =>
        refine List.forall_mem_singleton.mpr ?_
        rw [scalar?_of_isScalar hs, if_pos rfl]
        exact hok

/-- A record takes trees leaf by leaf if its parts do. -/
theorem leafwise_record (hp : Independent parts)
    (hparts : ∀ p ∈ parts, Leafwise p.decoder (p.get start) p.leaves) :
    Leafwise (Decoder.record typeName (parts.map Part.field) start) start (leavesOf parts) where
  fits v hv hclear := by
    cases hv with
    | table hne hsorted htrees => exact record_table_fits hp hparts ⟨hsorted, htrees⟩ hclear
    | scalar hs =>
        -- neither side holds: a record is no scalar, and no leaf of it is at its root
        refine iff_of_false (fun ⟨a, ha⟩ => record_of_isScalar hs ha) fun hfits => ?_
        obtain ⟨l, hl, hpath, -⟩ := hfits [] v (by rw [scalar?_of_isScalar hs, if_pos rfl])
        obtain ⟨p, -, k, -, rfl⟩ := mem_leavesOf.mp hl
        cases hpath
  reads v a hv hclear hok := by
    cases hv with
    | table hne hsorted htrees => exact record_table_reads hp hparts ⟨hsorted, htrees⟩ hclear hok
    | scalar hs => exact absurd hok (record_of_isScalar hs)

end Leafwise

/-! ## The configuration -/

namespace Decoder

theorem leafwise_server : Leafwise server {} (leavesOf serverParts) :=
  leafwise_record independent_server (List.forall_mem_singleton.mpr (leafwise_leaf _ _))

theorem leafwise_logging : Leafwise logging {} (leavesOf loggingParts) :=
  leafwise_record independent_logging (by
    simp only [loggingParts, List.forall_mem_cons]
    exact ⟨leafwise_leaf _ _, leafwise_leaf _ _, List.forall_mem_nil _⟩)

theorem leafwise_endpoints : Leafwise endpoints {} (leavesOf endpointParts) :=
  leafwise_record independent_endpoints (by
    simp only [endpointParts, List.forall_mem_cons]
    exact ⟨leafwise_leaf _ _, leafwise_leaf _ _, leafwise_leaf _ _, leafwise_leaf _ _,
      List.forall_mem_nil _⟩)

theorem leafwise_metrics : Leafwise metrics {} (leavesOf metricsParts) :=
  leafwise_record independent_metrics (by
    simp only [metricsParts, List.forall_mem_cons]
    exact ⟨leafwise_leaf _ _, leafwise_leaf _ _, leafwise_leaf _ _, leafwise_leaf _ _,
      List.forall_mem_nil _⟩)

theorem leafwise_gateway : Leafwise gateway {} (leavesOf gatewayParts) :=
  leafwise_record independent_gateway (by
    simp only [gatewayParts, List.forall_mem_cons]
    exact ⟨leafwise_endpoints, leafwise_leaf _ _, leafwise_metrics, List.forall_mem_nil _⟩)

theorem leafwise_app : ∀ p ∈ appParts, Leafwise p.decoder (p.get {}) p.leaves := by
  simp only [appParts, List.forall_mem_cons]
  exact ⟨leafwise_server, leafwise_logging, leafwise_gateway, List.forall_mem_nil _⟩

end Decoder

end ExprGateway
