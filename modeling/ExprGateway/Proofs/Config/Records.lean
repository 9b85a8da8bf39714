import ExprGateway.Config.App
import ExprGateway.Proofs.Config.Tables
import ExprGateway.Proofs.Outcomes

/-!
# Decoding records

A part of a record is what one field of it decodes.  Where the parts of a record can be set one without
the other (`Independent`), the order of the entries of a table does not matter: the table is a record
exactly if each of its names is that of a part, and what is found under the name of a part is that part,
which stays as it was if nothing is found (`record_table_eq_ok_iff`).  A list is as good as the table that
gives its elements the names of the parts (`record_list_eq_ok_iff`).
-/

namespace ExprGateway

open Setting

/-- A value somewhere inside of a value: where settings have it, how it is decoded, and what it is. -/
structure Leaf (α : Type) where
  path : List String
  {Value : Type}
  decoder : Decoder Value
  get : α → Value

/-- A part of a record: its name, how it is decoded and written, the leaves it is made of, and how it is
taken from the record and put into it. -/
structure Part (α : Type) where
  name : String
  {Value : Type}
  decoder : Decoder Value
  encode : Value → Json
  leaves : List (Leaf Value)
  get : α → Value
  put : Value → α → α

namespace Part

variable {α : Type}

/-- The field that decodes a part. -/
def field (p : Part α) : Decoder.Field α := Decoder.field p.name p.decoder p.put

/-- What a part is if a setting is found for it or not. -/
def Reads (p : Part α) (d : Dialect) (start a : α) : Option Setting → Prop
  | some v => p.decoder d v = .ok (p.get a)
  | none => p.get a = p.get start

end Part

/-- The parts of a record have names of their own, can be set one without the other, and are all there is
in the record. -/
structure Independent {α : Type} (parts : List (Part α)) : Prop where
  nodup : (parts.map Part.name).Nodup
  get_put : ∀ p ∈ parts, ∀ x a, p.get (p.put x a) = x
  get_put_of_ne : ∀ p ∈ parts, ∀ q ∈ parts, p.name ≠ q.name → ∀ x a, p.get (q.put x a) = p.get a
  ext : ∀ a b, (∀ p ∈ parts, p.get a = p.get b) → a = b

variable {α : Type} {parts : List (Part α)} {d : Dialect} {start a b : α} {es : Entries}

namespace Independent

theorem eq_of_name (hp : Independent parts) {p q : Part α} (h : p ∈ parts) (h' : q ∈ parts)
    (hname : p.name = q.name) : p = q :=
  List.inj_on_of_nodup_map hp.nodup h h' hname

theorem find?_field (hp : Independent parts) {p : Part α} (h : p ∈ parts) :
    (parts.map Part.field).find? (·.name == p.name) = some p.field := by
  have hsome : (parts.find? (·.name == p.name)).isSome :=
    List.find?_isSome.mpr ⟨p, h, beq_self_eq_true p.name⟩
  obtain ⟨q, hq⟩ := Option.isSome_iff_exists.mp hsome
  have hname : q.name = p.name := by simpa using List.find?_some hq
  rw [hp.eq_of_name (List.mem_of_find?_eq_some hq) h hname] at hq
  rw [List.find?_map]
  exact congrArg (Option.map Part.field) hq

/-- What one entry of a table does: it puts in the part that it names. -/
theorem setEntry_eq_ok_iff (hp : Independent parts) {e : String × Setting} :
    Decoder.setEntry d (parts.map Part.field) a e = .ok b ↔
      ∃ p ∈ parts, p.name = e.1 ∧ ∃ x, p.decoder d e.2 = .ok x ∧ p.put x a = b := by
  rw [Decoder.setEntry, Decoder.inside, mapError_eq_ok_iff]
  constructor
  · intro h
    split at h
    next f hf =>
      obtain ⟨p, hpart, rfl⟩ := List.mem_map.mp (List.mem_of_find?_eq_some hf)
      have hname := List.find?_some hf
      exact ⟨p, hpart, eq_of_beq hname, map_eq_ok_iff.mp h⟩
    next => cases h
  · rintro ⟨p, hpart, hname, h⟩
    rw [← hname, hp.find?_field hpart]
    exact map_eq_ok_iff.mpr h

/-- A run over the entries of a table succeeds exactly if each of them names a part and is decoded as
it. -/
theorem exists_foldlM_setEntry (hp : Independent parts) :
    (∃ b, es.foldlM (Decoder.setEntry d (parts.map Part.field)) a = .ok b) ↔
      ∀ e ∈ es, ∃ p ∈ parts, p.name = e.1 ∧ ∃ x, p.decoder d e.2 = .ok x := by
  induction es generalizing a with
  | nil => simp [pure, Except.pure]
  | cons e es ih =>
      simp only [List.foldlM_cons, bind_eq_ok_iff, hp.setEntry_eq_ok_iff, List.forall_mem_cons]
      constructor
      · rintro ⟨b, c, ⟨p, hpart, hname, x, hx, rfl⟩, hb⟩
        exact ⟨⟨p, hpart, hname, x, hx⟩, ih.mp ⟨b, hb⟩⟩
      · rintro ⟨⟨p, hpart, hname, x, hx⟩, hes⟩
        obtain ⟨b, hb⟩ := ih.mpr hes
        exact ⟨b, p.put x a, ⟨p, hpart, hname, x, hx, rfl⟩, hb⟩

/-- After a run over the entries of a table every part is what is found for it. -/
theorem reads_of_foldlM_setEntry (hp : Independent parts) (hes : (es.map Prod.fst).Nodup)
    (h : es.foldlM (Decoder.setEntry d (parts.map Part.field)) a = .ok b) :
    ∀ p ∈ parts, p.Reads d a b (es.lookup p.name) := by
  induction es generalizing a with
  | nil =>
      obtain rfl : a = b := Except.ok.inj h
      exact fun p _ => rfl
  | cons e es ih =>
      obtain ⟨n, v⟩ := e
      rw [List.map_cons, List.nodup_cons] at hes
      rw [List.foldlM_cons, bind_eq_ok_iff] at h
      obtain ⟨c, hc, h⟩ := h
      obtain ⟨q, hq, rfl, x, hx, rfl⟩ := hp.setEntry_eq_ok_iff.mp hc
      intro p hpart
      have hrest := ih hes.2 h p hpart
      rw [lookup_cons_eq]
      by_cases hname : p.name = q.name
      · -- the name does not come again, so what was put in stays
        obtain rfl := hp.eq_of_name hpart hq hname
        rw [lookup_eq_none_iff.mpr hes.1] at hrest
        have hget : p.get b = x := hrest.trans (hp.get_put p hpart x a)
        rw [if_pos rfl, Part.Reads, hget]
        exact hx
      · rw [if_neg hname]
        cases hfound : es.lookup p.name with
        | some w =>
            rw [hfound] at hrest
            exact hrest
        | none =>
            rw [hfound] at hrest
            exact hrest.trans (hp.get_put_of_ne p hpart q hq hname x a)

/-- An element of a list does what an entry with the name of its part does. -/
theorem setElement_eq_ok_iff (hp : Independent parts) {p : Part α} (h : p ∈ parts) {v : Setting}
    {place : Nat} : Decoder.setElement d a ((p.field, v), place) = .ok b ↔
      Decoder.setEntry d (parts.map Part.field) a (p.name, v) = .ok b := by
  simp only [Decoder.setElement, Decoder.setEntry, Decoder.inside, mapError_eq_ok_iff,
    hp.find?_field h]

theorem foldlM_setElement_eq_ok_iff (hp : Independent parts) {rest : List (Part α)}
    (hrest : ∀ p ∈ rest, p ∈ parts) (vs : List Setting) (place : Nat) :
    (((rest.map Part.field).zip vs).zipIdx place).foldlM (Decoder.setElement d) a = .ok b ↔
      ((rest.map Part.name).zip vs).foldlM (Decoder.setEntry d (parts.map Part.field)) a = .ok b := by
  induction rest generalizing vs place a with
  | nil => rfl
  | cons p rest ih =>
      obtain ⟨hpart, hrest⟩ := List.forall_mem_cons.mp hrest
      cases vs with
      | nil => rfl
      | cons v vs =>
          simp only [List.map_cons, List.zip_cons_cons, List.zipIdx_cons, List.foldlM_cons,
            bind_eq_ok_iff, hp.setElement_eq_ok_iff hpart, ih hrest]

end Independent

section Records

variable {typeName : String} {v : Setting}

/-- When a table is decoded as a record. -/
theorem exists_record_table (hp : Independent parts) :
    (∃ a, Decoder.record typeName (parts.map Part.field) start d (.table es) = .ok a) ↔
      ∀ e ∈ es, ∃ p ∈ parts, p.name = e.1 ∧ ∃ x, p.decoder d e.2 = .ok x :=
  hp.exists_foldlM_setEntry

/-- The record that a table is decoded as. -/
theorem record_table_eq_ok_iff (hp : Independent parts) (hes : (es.map Prod.fst).Nodup) :
    Decoder.record typeName (parts.map Part.field) start d (.table es) = .ok a ↔
      (∀ e ∈ es, ∃ p ∈ parts, p.name = e.1) ∧ ∀ p ∈ parts, p.Reads d start a (es.lookup p.name) := by
  constructor
  · intro h
    refine ⟨fun e he => ?_, hp.reads_of_foldlM_setEntry hes h⟩
    obtain ⟨p, hpart, hname, -⟩ := (exists_record_table hp).mp ⟨a, h⟩ e he
    exact ⟨p, hpart, hname⟩
  · rintro ⟨hknown, hreads⟩
    have hsome : ∀ e ∈ es, ∃ p ∈ parts, p.name = e.1 ∧ ∃ x, p.decoder d e.2 = .ok x := by
      intro e he
      obtain ⟨p, hpart, hname⟩ := hknown e he
      have hread := hreads p hpart
      rw [hname, (lookup_eq_some_iff hes).mpr he] at hread
      exact ⟨p, hpart, hname, p.get a, hread⟩
    obtain ⟨b, hb⟩ : ∃ b, Decoder.record typeName (parts.map Part.field) start d (.table es) = .ok b :=
      (exists_record_table hp).mpr hsome
    have hget : ∀ p ∈ parts, p.get b = p.get a := by
      intro p hpart
      have hbread := hp.reads_of_foldlM_setEntry hes hb p hpart
      have haread := hreads p hpart
      cases hfound : es.lookup p.name with
      | some v =>
          rw [hfound] at hbread haread
          exact Except.ok.inj (hbread.symm.trans haread)
      | none =>
          rw [hfound] at hbread haread
          exact Eq.trans hbread (Eq.symm haread)
    rw [hb, hp.ext b a hget]

/-- A list is decoded as the table that names its elements after the parts. -/
theorem record_list_eq_ok_iff (hp : Independent parts) {vs : List Setting} :
    Decoder.record typeName (parts.map Part.field) start d (.list vs) = .ok a ↔
      (d = .json → vs.length ≤ parts.length) ∧
        Decoder.record typeName (parts.map Part.field) start d
          (.table ((parts.map Part.name).zip vs)) = .ok a := by
  simp only [Decoder.record, bind_eq_ok_iff, hp.foldlM_setElement_eq_ok_iff (fun _ h => h),
    List.length_map]
  constructor
  · rintro ⟨b, hb, h⟩
    split_ifs at h with hlong
    obtain rfl : b = a := Except.ok.inj h
    exact ⟨fun hd => not_lt.mp fun hlt => hlong ⟨hd, hlt⟩, hb⟩
  · rintro ⟨hshort, ha⟩
    exact ⟨a, ha, if_neg fun hlong => (hshort hlong.1).not_gt hlong.2⟩

theorem record_of_isScalar (h : v.isScalar = true) :
    Decoder.record typeName (parts.map Part.field) start d v ≠ .ok a := by
  cases v with
  | list | table => cases h
  | _ => exact nofun

end Records

end ExprGateway
