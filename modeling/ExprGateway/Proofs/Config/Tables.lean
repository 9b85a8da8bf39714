import ExprGateway.Config.Value
import Mathlib.Data.List.Nodup
import Mathlib.Data.String.Basic

/-!
# Tables of settings

What a table says is what is found in it by name: in one that is put together from entries
(`lookup_collect`), and in one that is laid over another (`lookup_overlayEntries`).  The names are in
order, each of them once (`Sorted`), and every operation keeps it so.

A tree is a setting of scalars and of tables that are not empty, and says which scalar stands at which path
(`scalar?`).  Where one is laid over another and no path of either ends on the way of another path, this
is decided path by path: the later tree counts where it says anything (`scalar?_overlayEntries`).
-/

namespace ExprGateway

/-! ## Look-up -/

section Lookup

variable {α : Type} {fields : List (String × α)} {n m : String} {a : α}

theorem lookup_cons_eq : ((n, a) :: fields).lookup m = if m = n then some a else fields.lookup m := by
  rw [List.lookup_cons]
  split_ifs with h
  · simp [h]
  · simp [beq_false_of_ne h]

theorem lookup_eq_none_iff : fields.lookup n = none ↔ n ∉ fields.map Prod.fst := by
  rw [List.lookup_eq_none_iff, List.mem_map]
  constructor
  · rintro h ⟨e, he, rfl⟩
    exact absurd (h e he) (by simp)
  · intro h e he
    have hne : n ≠ e.1 := fun heq => h ⟨e, he, heq.symm⟩
    simpa using hne

theorem mem_of_lookup (h : fields.lookup n = some a) : (n, a) ∈ fields := by
  obtain ⟨front, rest, rfl, -⟩ := List.lookup_eq_some_iff.mp h
  exact List.mem_append_right _ List.mem_cons_self

/-- Where every name is there once, what is found is what is there. -/
theorem lookup_eq_some_iff (h : (fields.map Prod.fst).Nodup) :
    fields.lookup n = some a ↔ (n, a) ∈ fields := by
  refine ⟨mem_of_lookup, fun hmem => ?_⟩
  induction fields with
  | nil => cases hmem
  | cons e fields ih =>
      obtain ⟨k, b⟩ := e
      rw [List.map_cons, List.nodup_cons] at h
      rw [lookup_cons_eq]
      rcases List.mem_cons.mp hmem with heq | hmem
      · obtain ⟨rfl, rfl⟩ := Prod.mk.inj heq
        exact if_pos rfl
      · have hne : n ≠ k := fun heq => h.1 (List.mem_map.mpr ⟨_, hmem, heq⟩)
        rw [if_neg hne]
        exact ih h.2 hmem

theorem lookup_perm {fields' : List (String × α)} (h : (fields.map Prod.fst).Nodup)
    (hperm : fields.Perm fields') : fields'.lookup n = fields.lookup n := by
  have h' : (fields'.map Prod.fst).Nodup := (hperm.map Prod.fst).nodup_iff.mp h
  refine Option.ext fun a => ?_
  rw [lookup_eq_some_iff h, lookup_eq_some_iff h', hperm.mem_iff]

end Lookup

namespace Setting

/-- The entries of a table. -/
abbrev Entries := List (String × Setting)

variable {es earlier later : Entries} {n m : String} {u v : Setting}

/-! ## Names in order -/

/-- The names of a table are in order, each of them once. -/
def Sorted (es : Entries) : Prop := es.Pairwise (·.1 < ·.1)

theorem Sorted.nodup (h : Sorted es) : (es.map Prod.fst).Nodup :=
  List.pairwise_map.mpr (h.imp fun hlt => ne_of_lt hlt)

theorem lookup_insert : (insert n v es).lookup m = if m = n then some v else es.lookup m := by
  induction es with
  | nil => exact lookup_cons_eq
  | cons e es ih =>
      obtain ⟨k, u⟩ := e
      rw [insert, lookup_cons_eq]
      by_cases hlt : n < k
      · rw [if_pos hlt, lookup_cons_eq, lookup_cons_eq]
      · rw [if_neg hlt]
        by_cases heq : n = k
        · subst heq
          rw [if_pos rfl, lookup_cons_eq]
          split_ifs <;> rfl
        · rw [if_neg heq, lookup_cons_eq, ih]
          split_ifs with hk hn
          · exact absurd (hn.symm.trans hk) heq
          all_goals rfl

theorem mem_insert {e : String × Setting} (h : e ∈ insert n v es) : e = (n, v) ∨ e ∈ es := by
  induction es with
  | nil => exact .inl (List.mem_singleton.mp h)
  | cons d es ih =>
      rw [insert] at h
      split_ifs at h
      · exact List.mem_cons.mp h
      · exact (List.mem_cons.mp h).imp_right (List.mem_cons_of_mem d)
      · rcases List.mem_cons.mp h with rfl | h
        · exact .inr List.mem_cons_self
        · exact (ih h).imp_right (List.mem_cons_of_mem d)

theorem insert_ne_nil : insert n v es ≠ [] := by
  cases es with
  | nil => exact List.cons_ne_nil _ _
  | cons e es =>
      rw [insert]
      split_ifs <;> exact List.cons_ne_nil _ _

theorem Sorted.insert (h : Sorted es) : Sorted (insert n v es) := by
  induction es with
  | nil => exact List.pairwise_singleton _ _
  | cons e es ih =>
      obtain ⟨hall, hes⟩ := List.pairwise_cons.mp h
      rw [Setting.insert]
      split_ifs with hlt heq
      · refine List.pairwise_cons.mpr ⟨fun d hd => ?_, h⟩
        rcases List.mem_cons.mp hd with rfl | hd
        · exact hlt
        · exact hlt.trans (hall d hd)
      · subst heq
        exact List.pairwise_cons.mpr ⟨hall, hes⟩
      · refine List.pairwise_cons.mpr ⟨fun d hd => ?_, ih hes⟩
        rcases mem_insert hd with rfl | hd
        · exact lt_of_le_of_ne (not_lt.mp hlt) (Ne.symm heq)
        · exact hall d hd

/-! ## Tables from entries -/

/-- Entries in any order as the entries of a table. -/
def collect (es : Entries) : Entries := es.foldl (fun t e => insert e.1 e.2 t) []

theorem ofEntries_eq (es : Entries) : ofEntries es = table (collect es) := rfl

theorem sorted_foldl_insert {t : Entries} (h : Sorted t) :
    Sorted (es.foldl (fun t e => insert e.1 e.2 t) t) := by
  induction es generalizing t with
  | nil => exact h
  | cons e es ih => exact ih h.insert

theorem sorted_collect (es : Entries) : Sorted (collect es) := sorted_foldl_insert List.Pairwise.nil

theorem mem_foldl_insert {t : Entries} {e : String × Setting}
    (h : e ∈ es.foldl (fun t e => insert e.1 e.2 t) t) : e ∈ es ∨ e ∈ t := by
  induction es generalizing t with
  | nil => exact .inr h
  | cons d es ih =>
      rcases ih h with hes | ht
      · exact .inl (List.mem_cons_of_mem d hes)
      · rcases mem_insert ht with rfl | ht
        · exact .inl List.mem_cons_self
        · exact .inr ht

theorem mem_of_mem_collect {e : String × Setting} (h : e ∈ collect es) : e ∈ es :=
  (mem_foldl_insert h).resolve_right List.not_mem_nil

theorem lookup_foldl_insert {t : Entries} :
    (es.foldl (fun t e => insert e.1 e.2 t) t).lookup n = (es.reverse.lookup n).or (t.lookup n) := by
  induction es generalizing t with
  | nil => rfl
  | cons e es ih =>
      rw [List.foldl_cons, ih, List.reverse_cons, List.lookup_append, Option.or_assoc, lookup_insert,
        lookup_cons_eq]
      split_ifs <;> rfl

/-- Of two entries with one name the later one counts. -/
theorem lookup_collect (es : Entries) : (collect es).lookup n = es.reverse.lookup n := by
  rw [collect, lookup_foldl_insert]
  exact Option.or_none

/-! ## Overlays -/

theorem Sorted.overlayEntries (h : Sorted earlier) : Sorted (overlayEntries earlier later) := by
  induction later generalizing earlier with
  | nil => exact h
  | cons e later ih => exact ih h.insert

theorem overlayEntries_ne_nil (h : earlier ≠ []) : overlayEntries earlier later ≠ [] := by
  induction later generalizing earlier with
  | nil => exact h
  | cons e later ih => exact ih insert_ne_nil

/-- What a table says with another one laid over it. -/
theorem lookup_overlayEntries (h : (later.map Prod.fst).Nodup) :
    (overlayEntries earlier later).lookup n =
      match later.lookup n, earlier.lookup n with
      | none, found => found
      | some v, none => some v
      | some v, some u => some (overlay u v) := by
  induction later generalizing earlier with
  | nil => rfl
  | cons e later ih =>
      obtain ⟨k, v⟩ := e
      rw [List.map_cons, List.nodup_cons] at h
      rw [overlayEntries, ih h.2, lookup_insert, lookup_cons_eq]
      by_cases hk : n = k
      · subst hk
        rw [if_pos rfl, if_pos rfl, lookup_eq_none_iff.mpr h.1]
        cases earlier.lookup n <;> rfl
      · rw [if_neg hk, if_neg hk]

/-! ## Trees -/

/-- Whether a setting is neither a list nor a table. -/
def isScalar : Setting → Bool
  | list _ | table _ => false
  | _ => true

/-- Every table in a setting has its names in order. -/
inductive Ordered : Setting → Prop where
  | scalar {v : Setting} : v.isScalar = true → Ordered v
  | list {vs : List Setting} : (∀ v ∈ vs, Ordered v) → Ordered (.list vs)
  | table {es : Entries} : Sorted es → (∀ e ∈ es, Ordered e.2) → Ordered (.table es)

/-- A setting of scalars and of tables that are not empty. -/
inductive Plain : Setting → Prop where
  | scalar {v : Setting} : v.isScalar = true → Plain v
  | table {es : Entries} : es ≠ [] → (∀ e ∈ es, Plain e.2) → Plain (.table es)

/-- A plain setting with its names in order. -/
inductive Tree : Setting → Prop where
  | scalar {v : Setting} : v.isScalar = true → Tree v
  | table {es : Entries} : es ≠ [] → Sorted es → (∀ e ∈ es, Tree e.2) → Tree (.table es)

/-- A table of trees, which may be empty. -/
structure Forest (es : Entries) : Prop where
  sorted : Sorted es
  trees : ∀ e ∈ es, Tree e.2

theorem Plain.tree (h : Plain v) (hv : Ordered v) : Tree v := by
  induction h with
  | scalar h => exact .scalar h
  | table hne _ ih =>
      cases hv with
      | scalar h => cases h
      | table hsorted hes => exact .table hne hsorted fun e he => ih e he (hes e he)

theorem Tree.forest (h : Tree (.table es)) : es ≠ [] ∧ Forest es := by
  cases h with
  | scalar h => cases h
  | table hne hsorted hes => exact ⟨hne, hsorted, hes⟩

theorem Forest.tree (h : Forest es) (hne : es ≠ []) : Tree (.table es) := .table hne h.sorted h.trees

theorem Forest.of_lookup (h : Forest es) (hv : es.lookup n = some v) : Tree v :=
  h.trees _ (mem_of_lookup hv)

/-! ## Overlays of trees -/

theorem overlay_of_isScalar (h : v.isScalar = true) : overlay u v = v := by
  cases v <;> first | rfl | cases h

theorem overlay_table_of_isScalar (h : u.isScalar = true) : overlay u (table es) = table es := by
  cases u <;> first | rfl | cases h

theorem Forest.insert (h : Forest es) (hv : Tree v) : Forest (insert n v es) := by
  refine ⟨h.sorted.insert, fun e he => ?_⟩
  rcases mem_insert he with rfl | he
  · exact hv
  · exact h.trees e he

/-- A table of trees stays one if what is laid over its entries are trees that leave trees behind. -/
theorem Forest.overlay_of (h : Forest earlier) (hlater : ∀ e ∈ later, Tree e.2)
    (hover : ∀ e ∈ later, ∀ u, Tree u → Tree (overlay u e.2)) : Forest (overlayEntries earlier later) := by
  induction later generalizing earlier with
  | nil => exact h
  | cons e later ih =>
      obtain ⟨htree, hlater⟩ := List.forall_mem_cons.mp hlater
      obtain ⟨hhead, hover⟩ := List.forall_mem_cons.mp hover
      rw [Setting.overlayEntries]
      refine ih (h.insert ?_) hlater hover
      cases hfound : earlier.lookup e.1 with
      | none => exact htree
      | some u => exact hhead u (h.of_lookup hfound)

theorem Tree.overlay (hu : Tree u) (hv : Tree v) : Tree (overlay u v) := by
  induction hv generalizing u with
  | scalar h =>
      rw [overlay_of_isScalar h]
      exact .scalar h
  | table hne hsorted htrees ih =>
      cases hu with
      | scalar h =>
          rw [overlay_table_of_isScalar h]
          exact .table hne hsorted htrees
      | table hne' hsorted' htrees' =>
          rw [Setting.overlay]
          exact (Forest.overlay_of ⟨hsorted', htrees'⟩ htrees fun e he u hu => ih e he hu).tree
            (overlayEntries_ne_nil hne')

theorem Forest.overlay (h : Forest earlier) (h' : Forest later) : Forest (overlayEntries earlier later) :=
  h.overlay_of h'.trees fun e he _ hu => hu.overlay (h'.trees e he)

/-! ## Scalars at paths -/

/-- The scalar at a path of names. -/
def scalar? (v : Setting) : List String → Option Setting
  | [] => if v.isScalar then some v else none
  | n :: path =>
    match v with
    | table es => (es.lookup n).bind (·.scalar? path)
    | _ => none

theorem scalar?_table_cons (path : List String) :
    (table es).scalar? (n :: path) = (es.lookup n).bind (·.scalar? path) := rfl

theorem scalar?_of_isScalar (h : v.isScalar = true) (path : List String) :
    v.scalar? path = if path = [] then some v else none := by
  cases path with
  | nil => rw [scalar?, if_pos h, if_pos rfl]
  | cons n path => cases v <;> first | rfl | cases h

/-- A tree says something. -/
theorem Tree.exists_scalar? (h : Tree v) : ∃ path w, v.scalar? path = some w := by
  induction h with
  | scalar h => exact ⟨[], _, by rw [scalar?_of_isScalar h, if_pos rfl]⟩
  | @table es hne hsorted _ ih =>
      obtain ⟨e, he⟩ := List.exists_mem_of_ne_nil _ hne
      obtain ⟨path, w, hw⟩ := ih e he
      refine ⟨e.1 :: path, w, ?_⟩
      rw [scalar?_table_cons, (lookup_eq_some_iff hsorted.nodup).mpr he]
      exact hw

/-- No path in a set ends on the way of another one in it. -/
def PrefixFree (P : List String → Prop) : Prop := ∀ p q, P p → P q → p <+: q → p = q

/-- All that a setting says is at paths in a set. -/
def Within (P : List String → Prop) (v : Setting) : Prop := ∀ p w, v.scalar? p = some w → P p

variable {P : List String → Prop}

theorem PrefixFree.cons (h : PrefixFree P) (n : String) : PrefixFree fun path => P (n :: path) :=
  fun _ _ hp hq hpre => (List.cons.inj (h _ _ hp hq ((List.prefix_cons_inj n).mpr hpre))).2

theorem Within.of_lookup (h : Within P (table es)) (hv : es.lookup n = some v) :
    Within (fun path => P (n :: path)) v := by
  intro p w hw
  refine h (n :: p) w ?_
  rw [scalar?_table_cons, hv]
  exact hw

/-- In a set of paths where none ends on the way of another, a scalar and a table have no room at one
place. -/
theorem not_within_of_scalar (hP : PrefixFree P) (hu : Within P u) (hscalar : u.isScalar = true)
    (htable : Tree (table es)) : ¬ Within P (table es) := by
  intro hes
  obtain ⟨path, w, hw⟩ := htable.exists_scalar?
  have hroot : P [] := hu [] u (by rw [scalar?_of_isScalar hscalar, if_pos rfl])
  obtain rfl := hP _ _ hroot (hes path w hw) (List.nil_prefix)
  cases hw

/-- What tables of trees say with one laid over the other: the later one counts, path by path. -/
theorem scalar?_overlayEntries (hP : PrefixFree P) (h : Forest earlier) (h' : Forest later)
    (hearlier : Within P (table earlier)) (hlater : Within P (table later)) (path : List String) :
    (table (overlayEntries earlier later)).scalar? path =
      ((table later).scalar? path).or ((table earlier).scalar? path) := by
  induction path generalizing P earlier later with
  | nil => rfl
  | cons n path ih =>
      simp only [scalar?_table_cons, lookup_overlayEntries h'.sorted.nodup]
      cases hv : later.lookup n with
      | none => rfl
      | some v =>
          cases hu : earlier.lookup n with
          | none => exact Option.or_none.symm
          | some u =>
              have hvP := hlater.of_lookup hv
              have huP := hearlier.of_lookup hu
              simp only [Option.bind_some]
              cases h'.of_lookup hv with
              | scalar hvs =>
                  rw [overlay_of_isScalar hvs]
                  cases h.of_lookup hu with
                  | scalar hus =>
                      rw [scalar?_of_isScalar hvs, scalar?_of_isScalar hus]
                      split_ifs <;> rfl
                  | table hne hsorted htrees =>
                      exact absurd huP
                        (not_within_of_scalar (hP.cons n) hvP hvs (.table hne hsorted htrees))
              | table hne hsorted htrees =>
                  cases h.of_lookup hu with
                  | scalar hus =>
                      exact absurd hvP
                        (not_within_of_scalar (hP.cons n) huP hus (.table hne hsorted htrees))
                  | table hne' hsorted' htrees' =>
                      rw [overlay]
                      exact ih (hP.cons n) ⟨hsorted', htrees'⟩ ⟨hsorted, htrees⟩ huP hvP

theorem Within.overlay (hP : PrefixFree P) (h : Forest earlier) (h' : Forest later)
    (hearlier : Within P (table earlier)) (hlater : Within P (table later)) :
    Within P (table (overlayEntries earlier later)) := by
  intro p w hw
  rw [scalar?_overlayEntries hP h h' hearlier hlater, Option.or_eq_some_iff] at hw
  rcases hw with hw | ⟨-, hw⟩
  · exact hlater p w hw
  · exact hearlier p w hw

/-! ## A single scalar -/

theorem scalar?_nested (path p : List String) (h : v.isScalar = true) :
    (nested path v).scalar? p = if p = path then some v else none := by
  induction path generalizing p with
  | nil => exact scalar?_of_isScalar h p
  | cons n path ih =>
      cases p with
      | nil => rfl
      | cons m p =>
          have hnested : nested (n :: path) v = table [(n, nested path v)] := rfl
          rw [hnested, scalar?_table_cons, lookup_cons_eq]
          by_cases hm : m = n
          · subst hm
            rw [if_pos rfl, Option.bind_some, ih]
            simp only [List.cons.injEq, true_and]
          · rw [if_neg hm, if_neg fun heq => hm (List.cons.inj heq).1]
            rfl

theorem tree_nested (path : List String) (h : v.isScalar = true) : Tree (nested path v) := by
  induction path with
  | nil => exact .scalar h
  | cons n path ih =>
      exact .table (List.cons_ne_nil _ _) (List.pairwise_singleton _ _)
        (List.forall_mem_singleton.mpr ih)

end Setting

end ExprGateway
