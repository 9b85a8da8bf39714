import ExprGateway.Proofs.Config.Schema
import ExprGateway.Proofs.Json.ReadBack

/-!
# Configurations that are written

What is written of a configuration is read as this configuration, and so is every abridgement of it: fields
that are as in the default are left out, or a record is a list of the values of its fields.  A key that is
not one of the fields is a fault wherever it stands (`GatewayConfig.round_trip`).

`Abridged` and `Strays` say this of JSON values alone, with the JSON of the default beside them.  A part of a
record is `Rereads` if its decoder does what they say; so is a part that is a record of such parts
(`rereads_record`), whichever of the shapes it has: a list of values is as good as the object that has them
under their names (`AbridgedElements.zip`), and in an object only the look-up counts.
-/

namespace ExprGateway

open Setting

namespace Json

mutual

/-- A value with a default beside it, and the value abridged. -/
inductive Abridged : Json → Json → Json → Prop where
  | same {d v : Json} : Abridged d v v
  | object {ds fields short short' : List (String × Json)} : AbridgedFields ds fields short →
      short.Perm short' → Abridged (.object ds) (.object fields) (.object short')
  | array {ds fields : List (String × Json)} {elements : List Json} :
      AbridgedElements ds fields elements → Abridged (.object ds) (.object fields) (.array elements)

/-- Fields, of which any that are as in the default may be left out. -/
inductive AbridgedFields : List (String × Json) → List (String × Json) → List (String × Json) → Prop where
  | nil : AbridgedFields [] [] []
  | keep {n : String} {d v w : Json} {ds fields short : List (String × Json)} : Abridged d v w →
      AbridgedFields ds fields short →
      AbridgedFields ((n, d) :: ds) ((n, v) :: fields) ((n, w) :: short)
  | leave {n : String} {v : Json} {ds fields short : List (String × Json)} :
      AbridgedFields ds fields short → AbridgedFields ((n, v) :: ds) ((n, v) :: fields) short

/-- Values of fields in their order, of which the last ones may be left out if they are as in the
default. -/
inductive AbridgedElements : List (String × Json) → List (String × Json) → List Json → Prop where
  | nil {ds : List (String × Json)} : AbridgedElements ds ds []
  | cons {n : String} {d v w : Json} {ds fields : List (String × Json)} {elements : List Json} :
      Abridged d v w → AbridgedElements ds fields elements →
      AbridgedElements ((n, d) :: ds) ((n, v) :: fields) (w :: elements)

end

/-- An object that has a key beside those of the default, or a value with one in a field of it.  Of two
fields with one key the later one counts. -/
inductive Strays : Json → Json → Prop where
  | here {n : String} {ds fields : List (String × Json)} : n ∈ fields.map Prod.fst →
      n ∉ ds.map Prod.fst → Strays (.object ds) (.object fields)
  | field {n : String} {d v : Json} {ds fields : List (String × Json)} : (n, d) ∈ ds →
      fields.reverse.lookup n = some v → Strays d v → Strays (.object ds) (.object fields)
  | element {n : String} {d v : Json} {ds : List (String × Json)} {elements : List Json} {i : Nat} :
      ds[i]? = some (n, d) → elements[i]? = some v → Strays d v → Strays (.object ds) (.array elements)

variable {n : String} {d v w : Json} {ds fields short : List (String × Json)} {elements : List Json}

/-- Whether a value is an object. -/
def isObject : Json → Bool
  | object _ => true
  | _ => false

theorem abridged_iff_of_not_object (h : d.isObject = false) : Abridged d v w ↔ w = v := by
  constructor
  · intro ha
    cases ha with
    | same => rfl
    | object => cases h
    | array => cases h
  · rintro rfl
    exact .same

theorem not_strays_of_not_object (h : d.isObject = false) : ¬ Strays d v := by
  intro hs
  cases hs <;> cases h

theorem abridgedFields_cons_iff : AbridgedFields ((n, d) :: ds) ((n, v) :: fields) short ↔
    (∃ w rest, short = (n, w) :: rest ∧ Abridged d v w ∧ AbridgedFields ds fields rest) ∨
      v = d ∧ AbridgedFields ds fields short := by
  constructor
  · intro h
    cases h with
    | keep hw hrest => exact .inl ⟨_, _, rfl, hw, hrest⟩
    | leave hrest => exact .inr ⟨rfl, hrest⟩
  · rintro (⟨w, rest, rfl, hw, hrest⟩ | ⟨rfl, hrest⟩)
    · exact .keep hw hrest
    · exact .leave hrest

theorem abridgedFields_nil : AbridgedFields ds ds [] := by
  induction ds with
  | nil => exact .nil
  | cons e ds ih => exact .leave ih

/-- A list of values is as good as the fields that it has the values of. -/
theorem AbridgedElements.zip (h : AbridgedElements ds fields elements) :
    AbridgedFields ds fields ((ds.map Prod.fst).zip elements) ∧ elements.length ≤ ds.length := by
  induction elements generalizing ds fields with
  | nil =>
      cases h
      rw [List.zip_nil_right]
      exact ⟨abridgedFields_nil, Nat.zero_le _⟩
  | cons w elements ih =>
      cases h with
      | cons hw hrest => exact ⟨.keep hw (ih hrest).1, Nat.succ_le_succ (ih hrest).2⟩

end Json

/-! ## Settings from JSON -/

namespace Setting

variable {n : String} {fields : List (String × Json)}

theorem ofJsonElements_eq (elements : List Json) : ofJsonElements elements = elements.map ofJson := by
  induction elements with
  | nil => rfl
  | cons v elements ih => rw [ofJsonElements, ih, List.map_cons]

theorem ofJsonFields_eq (fields : List (String × Json)) :
    ofJsonFields fields = fields.map (Prod.map id ofJson) := by
  induction fields with
  | nil => rfl
  | cons e fields ih => rw [ofJsonFields, ih, List.map_cons, Prod.map_apply, id]

theorem map_fst_ofJsonFields (fields : List (String × Json)) :
    (ofJsonFields fields).map Prod.fst = fields.map Prod.fst := by
  rw [ofJsonFields_eq, List.map_map]
  rfl

theorem lookup_ofJsonFields : (ofJsonFields fields).lookup n = (fields.lookup n).map ofJson := by
  induction fields with
  | nil => rfl
  | cons e fields ih =>
      rw [ofJsonFields, lookup_cons_eq, lookup_cons_eq, ih]
      split_ifs <;> rfl

/-- What is found in the setting of an object: of two fields with one key the later one counts. -/
theorem lookup_collect_ofJsonFields :
    (collect (ofJsonFields fields)).lookup n = (fields.reverse.lookup n).map ofJson := by
  rw [lookup_collect, ← lookup_ofJsonFields, ofJsonFields_eq, ofJsonFields_eq, List.map_reverse]

end Setting

/-! ## Records -/

open Json

variable {α β : Type} {parts : List (Part α)} {p : Part β} {start a : α} {begin : β}
  {typeName n : String} {short short' : List (String × Json)} {elements : List Json} {es : Entries}
  {d : Dialect} {v j : Json}

/-- What is written of a part. -/
def Part.written (p : Part α) (a : α) : String × Json := (p.name, p.encode (p.get a))

theorem map_fst_written (parts : List (Part α)) (a : α) :
    (parts.map (·.written a)).map Prod.fst = parts.map Part.name := by
  rw [List.map_map]
  rfl

/-- The JSON of a record. -/
def recordJson (parts : List (Part α)) (a : α) : Json := .object (parts.map (·.written a))

/-- What is written of a part is decoded in every abridgement, and not with a key that strays. -/
structure Part.Rereads (p : Part α) (start : α) : Prop where
  reads : ∀ x j, Abridged (p.encode (p.get start)) (p.encode x) j → p.decoder .json (ofJson j) = .ok x
  rejects : ∀ j, Strays (p.encode (p.get start)) j → ∀ x, p.decoder .json (ofJson j) ≠ .ok x

theorem Part.Rereads.injective (h : p.Rereads begin) {x y : p.Value} (hxy : p.encode x = p.encode y) :
    x = y :=
  Except.ok.inj ((h.reads x _ .same).symm.trans (hxy ▸ h.reads y _ .same))

/-- A part that is a leaf, with values that are not objects. -/
theorem rereads_leaf {name : String} {decoder : Decoder β} {encode : β → Json} {get : α → β}
    {put : β → α → α} (hobject : ∀ x, (encode x).isObject = false)
    (h : ∀ x, decoder .json (ofJson (encode x)) = .ok x) :
    (Part.leaf name decoder encode get put).Rereads start where
  reads := by
    intro x j hj
    obtain rfl := (abridged_iff_of_not_object (hobject _)).mp hj
    exact h x
  rejects := fun j hj => absurd hj (not_strays_of_not_object (hobject _))

theorem abridgedFields_self :
    AbridgedFields (parts.map (·.written start)) (parts.map (·.written a)) (parts.map (·.written a)) := by
  induction parts with
  | nil => exact .nil
  | cons p parts ih => exact .keep .same ih

/-- What is found among the fields of an abridged record. -/
theorem abridgedFields_lookup (hnodup : (parts.map Part.name).Nodup)
    (h : AbridgedFields (parts.map (·.written start)) (parts.map (·.written a)) short) :
    (short.map Prod.fst).Sublist (parts.map Part.name) ∧ ∀ p ∈ parts,
      (∃ w, short.lookup p.name = some w ∧ Abridged (p.encode (p.get start)) (p.encode (p.get a)) w) ∨
        short.lookup p.name = none ∧ p.encode (p.get a) = p.encode (p.get start) := by
  induction parts generalizing short with
  | nil =>
      cases h
      exact ⟨.slnil, List.forall_mem_nil _⟩
  | cons p parts ih =>
      rw [List.map_cons, List.nodup_cons] at hnodup
      have hother : ∀ q ∈ parts, q.name ≠ p.name :=
        fun q hq heq => hnodup.1 (heq ▸ List.mem_map_of_mem hq)
      rcases abridgedFields_cons_iff.mp h with ⟨w, rest, rfl, hw, hrest⟩ | ⟨hdefault, hrest⟩
      · obtain ⟨hsub, hfound⟩ := ih hnodup.2 hrest
        refine ⟨hsub.cons_cons _, List.forall_mem_cons.mpr ⟨.inl ⟨w, ?_, hw⟩, fun q hq => ?_⟩⟩
        · rw [lookup_cons_eq, if_pos rfl]
        · rw [lookup_cons_eq, if_neg (hother q hq)]
          exact hfound q hq
      · obtain ⟨hsub, hfound⟩ := ih hnodup.2 hrest
        have hnone : p.name ∉ short.map Prod.fst := fun hmem => hnodup.1 (hsub.subset hmem)
        exact ⟨hsub.cons _, List.forall_mem_cons.mpr ⟨.inr ⟨lookup_eq_none_iff.mpr hnone, hdefault⟩, hfound⟩⟩

/-- A table in which the fields of an abridged record are found is decoded as the record. -/
theorem record_table_abridged (hp : Independent parts) (hparts : ∀ p ∈ parts, p.Rereads start)
    (hes : (es.map Prod.fst).Nodup) (hlookup : ∀ n, es.lookup n = (short.lookup n).map ofJson)
    (h : AbridgedFields (parts.map (·.written start)) (parts.map (·.written a)) short) :
    Decoder.record typeName (parts.map Part.field) start .json (.table es) = .ok a := by
  obtain ⟨hsub, hfound⟩ := abridgedFields_lookup hp.nodup h
  refine (record_table_eq_ok_iff hp hes).mpr ⟨fun e he => ?_, fun p hpart => ?_⟩
  · have hsome := (lookup_eq_some_iff hes).mpr he
    rw [hlookup] at hsome
    obtain ⟨w, hw, -⟩ := Option.map_eq_some_iff.mp hsome
    have hname := hsub.subset (List.mem_map_of_mem (mem_of_lookup hw))
    exact List.mem_map.mp hname
  · rw [hlookup]
    rcases hfound p hpart with ⟨w, hw, habridged⟩ | ⟨hnone, hdefault⟩
    · rw [hw]
      exact (hparts p hpart).reads _ _ habridged
    · rw [hnone]
      exact (hparts p hpart).injective hdefault

/-- An object is read by look-up, so that the order of its fields does not matter. -/
theorem record_object_abridged (hp : Independent parts) (hparts : ∀ p ∈ parts, p.Rereads start)
    (h : AbridgedFields (parts.map (·.written start)) (parts.map (·.written a)) short)
    (hperm : short.Perm short') :
    Decoder.record typeName (parts.map Part.field) start .json (ofJson (.object short')) = .ok a := by
  have hnodup := hp.nodup.sublist (abridgedFields_lookup hp.nodup h).1
  rw [ofJson, ofEntries_eq]
  refine record_table_abridged hp hparts (sorted_collect _).nodup (fun n => ?_) h
  rw [lookup_collect_ofJsonFields, lookup_perm hnodup (hperm.trans (List.reverse_perm short').symm)]

/-- A list is read as the fields that it has the values of. -/
theorem record_array_abridged (hp : Independent parts) (hparts : ∀ p ∈ parts, p.Rereads start)
    (h : AbridgedElements (parts.map (·.written start)) (parts.map (·.written a)) elements) :
    Decoder.record typeName (parts.map Part.field) start .json (ofJson (.array elements)) = .ok a := by
  obtain ⟨hzip, hlength⟩ := h.zip
  rw [map_fst_written] at hzip
  rw [List.length_map] at hlength
  have hnodup := hp.nodup.sublist (abridgedFields_lookup hp.nodup hzip).1
  rw [ofJson, ofJsonElements_eq, record_list_eq_ok_iff hp, List.zip_map_right, ← ofJsonFields_eq]
  refine ⟨fun _ => ?_, record_table_abridged hp hparts ?_ (fun n => lookup_ofJsonFields) hzip⟩
  · rwa [List.length_map]
  · rwa [map_fst_ofJsonFields]

/-- A record is read back in every abridgement if its parts are. -/
theorem record_abridged (hp : Independent parts) (hparts : ∀ p ∈ parts, p.Rereads start)
    (h : Abridged (recordJson parts start) (recordJson parts a) j) :
    Decoder.record typeName (parts.map Part.field) start .json (ofJson j) = .ok a := by
  rw [recordJson, recordJson] at h
  cases h with
  | same => exact record_object_abridged hp hparts abridgedFields_self (List.Perm.refl _)
  | object hshort hperm => exact record_object_abridged hp hparts hshort hperm
  | array helements => exact record_array_abridged hp hparts helements

/-! ## Keys that stray -/

/-- A table is no record if a name in it is not that of a part. -/
theorem record_table_unknown (hp : Independent parts) (hn : n ∈ es.map Prod.fst)
    (hnone : n ∉ parts.map Part.name) :
    Decoder.record typeName (parts.map Part.field) start d (.table es) ≠ .ok a := by
  intro ha
  obtain ⟨e, he, rfl⟩ := List.mem_map.mp hn
  obtain ⟨p, hpart, hname, -⟩ := (exists_record_table hp).mp ⟨a, ha⟩ e he
  exact hnone (hname ▸ List.mem_map_of_mem hpart)

/-- A table is no record if what it has for a part strays. -/
theorem record_table_strays (hp : Independent parts) (hparts : ∀ p ∈ parts, p.Rereads start)
    (hdefault : (n, v) ∈ parts.map (·.written start)) (h : Strays v j) (he : (n, ofJson j) ∈ es) :
    Decoder.record typeName (parts.map Part.field) start .json (.table es) ≠ .ok a := by
  intro ha
  obtain ⟨p, hpart, hname, x, hx⟩ := (exists_record_table hp).mp ⟨a, ha⟩ _ he
  obtain ⟨q, hq, hwritten⟩ := List.mem_map.mp hdefault
  obtain ⟨rfl, rfl⟩ := Prod.mk.inj hwritten
  obtain rfl := hp.eq_of_name hpart hq hname
  exact (hparts p hpart).rejects _ h x hx

/-- A record is rejected with a key that strays if its parts are. -/
theorem record_strays (hp : Independent parts) (hparts : ∀ p ∈ parts, p.Rereads start)
    (h : Strays (recordJson parts start) j) :
    Decoder.record typeName (parts.map Part.field) start .json (ofJson j) ≠ .ok a := by
  rw [recordJson] at h
  cases h with
  | @here n _ fields hn hnone =>
      rw [map_fst_written] at hnone
      rw [ofJson, ofEntries_eq]
      refine record_table_unknown hp ?_ hnone
      rw [← List.mem_reverse, ← List.map_reverse] at hn
      by_contra hcollect
      have hlookup := lookup_eq_none_iff.mpr hcollect
      rw [lookup_collect_ofJsonFields, Option.map_eq_none_iff] at hlookup
      exact lookup_eq_none_iff.mp hlookup hn
  | @field n d v _ fields hd hv hs =>
      rw [ofJson, ofEntries_eq]
      refine record_table_strays hp hparts hd hs (mem_of_lookup ?_)
      rw [lookup_collect_ofJsonFields, hv, Option.map_some]
  | @element n d v _ elements i hd hv hs =>
      rw [ofJson, ofJsonElements_eq, Ne, record_list_eq_ok_iff hp]
      have hname : (parts.map Part.name)[i]? = some n := by
        rw [← map_fst_written parts start, List.getElem?_map, hd, Option.map_some]
      have hvalue : (elements.map ofJson)[i]? = some (ofJson v) := by
        rw [List.getElem?_map, hv, Option.map_some]
      have he : (n, ofJson v) ∈ (parts.map Part.name).zip (elements.map ofJson) :=
        List.mem_of_getElem? (List.getElem?_zip_eq_some.mpr ⟨hname, hvalue⟩)
      exact fun ha => record_table_strays hp hparts (List.mem_of_getElem? hd) hs he ha.2

/-- A part that is itself a record. -/
theorem rereads_record {parts : List (Part p.Value)} (hp : Independent parts)
    (hdecoder : p.decoder = Decoder.record typeName (parts.map Part.field) (p.get begin))
    (hencode : p.encode = recordJson parts) (hparts : ∀ q ∈ parts, q.Rereads (p.get begin)) :
    p.Rereads begin where
  reads := by
    intro x j hj
    rw [hencode] at hj
    rw [hdecoder]
    exact record_abridged hp hparts hj
  rejects := by
    intro j hj x
    rw [hencode] at hj
    rw [hdecoder]
    exact record_strays hp hparts hj

/-! ## The gateway -/

namespace Decoder

theorem word_ofJson (n : UInt64) : word .json (ofJson (wordJson n)) = .ok n := by
  have hn : n.toNat ≤ maxUnsigned := Nat.le_of_lt_succ n.toNat_lt
  rw [wordJson, ofJson, if_pos (Int.natCast_nonneg _), Int.toNat_natCast]
  simp only [word, if_pos hn, UInt64.ofNat_toNat]

theorem delivery_ofJson (w : Delivery) : delivery .json (ofJson (.string w.name)) = .ok w := by
  cases w <;> rfl

theorem rereads_endpoints : ∀ p ∈ endpointParts, p.Rereads {} := by
  simp only [endpointParts, List.forall_mem_cons]
  exact ⟨rereads_leaf (fun _ => rfl) fun _ => rfl, rereads_leaf (fun _ => rfl) fun _ => rfl,
    rereads_leaf (fun _ => rfl) fun _ => rfl, rereads_leaf (fun _ => rfl) fun _ => rfl,
    List.forall_mem_nil _⟩

theorem rereads_metrics : ∀ p ∈ metricsParts, p.Rereads {} := by
  simp only [metricsParts, List.forall_mem_cons]
  exact ⟨rereads_leaf (fun _ => rfl) fun _ => rfl, rereads_leaf (fun _ => rfl) fun _ => rfl,
    rereads_leaf (fun _ => rfl) word_ofJson, rereads_leaf (fun _ => rfl) delivery_ofJson,
    List.forall_mem_nil _⟩

theorem rereads_gateway : ∀ p ∈ gatewayParts, p.Rereads {} := by
  simp only [gatewayParts, List.forall_mem_cons]
  exact ⟨rereads_record independent_endpoints rfl rfl rereads_endpoints,
    rereads_leaf (fun _ => rfl) word_ofJson,
    rereads_record independent_metrics rfl rfl rereads_metrics, List.forall_mem_nil _⟩

end Decoder

namespace GatewayConfig

/-- What is written of a configuration is a value that is read back from its text. -/
theorem fits_toJson (c : GatewayConfig) : c.toJson.Fits ∧ c.toJson.written = c.toJson := by
  have hword : ∀ n : UInt64, (wordJson n).Fits := by
    intro n
    have hn := n.toNat_lt
    rw [wordJson, Json.Fits]
    omega
  refine ⟨?_, rfl⟩
  simp only [toJson, Endpoints.toJson, MetricsConfig.toJson, Json.Fits, Json.FitsFields, hword,
    and_self]

/-- Whatever a configuration was read from, its text is read as the configuration again, and so is every
abridgement of it.  A key that strays is a fault. -/
theorem round_trip :
    (∀ c : GatewayConfig,
      (∃ v c', Json.read? c.toJson.compact = some v ∧ ofJson v = .ok c' ∧ c' = c ∧
        c'.toJson.compact = c.toJson.compact) ∧
      ∀ j, Abridged ({} : GatewayConfig).toJson c.toJson j → ofJson j = .ok c) ∧
    ∀ j, Strays ({} : GatewayConfig).toJson j → ∃ e, ofJson j = .error e := by
  have habridged : ∀ (c : GatewayConfig) j,
      Abridged ({} : GatewayConfig).toJson c.toJson j → ofJson j = .ok c :=
    fun c j hj => record_abridged Decoder.independent_gateway Decoder.rereads_gateway hj
  refine ⟨fun c => ⟨⟨c.toJson, c, ?_, habridged c _ .same, rfl, rfl⟩, habridged c⟩, fun j hj => ?_⟩
  · obtain ⟨hfits, hwritten⟩ := fits_toJson c
    rw [Json.read?_compact hfits, hwritten]
  · exact exists_error_iff.mpr fun a =>
      record_strays Decoder.independent_gateway Decoder.rereads_gateway hj

/-- A list with the first two of three fields, and one with a field of its own in the first. -/
theorem round_trip_list :
    ofJson (.array [.object [("sum", .string "http://a")], .whole 7]) =
        .ok { operations := { sum := "http://a" }, operationTimeoutMs := 7 } ∧
      ∃ e, ofJson (.array [.object [("power", .string "http://a")]]) = .error e := by
  have hsum : Abridged ({} : Endpoints).toJson ({ sum := "http://a" } : Endpoints).toJson
      (.object [("sum", .string "http://a")]) :=
    .object (.keep .same (.leave (.leave (.leave .nil)))) (List.Perm.refl _)
  have hpower : Strays ({} : Endpoints).toJson (.object [("power", .string "http://a")]) :=
    .here List.mem_cons_self (by decide)
  exact ⟨(round_trip.1 _).2 _ (.array (.cons hsum (.cons .same .nil))),
    round_trip.2 _ (.element (i := 0) rfl rfl hpower)⟩

end GatewayConfig

end ExprGateway
