import ExprGateway.Proofs.Config.Tables
import ExprGateway.Proofs.Outcomes
import ExprGateway.Yaml.Document

/-!
# The settings of a document

Whatever a document says, every table in its settings has its names in order, each of them once
(`Yaml.ordered_of_read`): tables are put together by `Setting.ofEntries`, at every depth.
-/

namespace ExprGateway.Yaml

open Setting

variable {α β : Type} {p : α → Prop} {q : β → Prop}

/-- Every value that a computation can have satisfies a condition. -/
def Returns (x : Counted α) (p : α → Prop) : Prop := ∀ n a m, x.run n = .ok (a, m) → p a

theorem returns_pure {a : α} (h : p a) : Returns (pure a) p := by
  intro n b m hb
  obtain ⟨rfl, -⟩ := Prod.mk.inj (Except.ok.inj hb)
  exact h

theorem returns_throw (e : ReadFault) : Returns (throw e) p := fun _ _ _ h => nomatch h

theorem Returns.bind {x : Counted α} {f : α → Counted β} (hx : Returns x p)
    (hf : ∀ a, p a → Returns (f a) q) : Returns (x >>= f) q := by
  intro n b k hb
  rw [StateT.run_bind, bind_eq_ok_iff] at hb
  obtain ⟨⟨a, m⟩, ha, hb⟩ := hb
  exact hf a (hx n a m ha) m b k hb

theorem returns_true (x : Counted α) : Returns x fun _ => True := fun _ _ _ _ => trivial

theorem returns_mapM {f : α → Counted β} (h : ∀ a, Returns (f a) q) (l : List α) :
    Returns (l.mapM f) fun bs => ∀ b ∈ bs, q b := by
  induction l with
  | nil => exact returns_pure (List.forall_mem_nil _)
  | cons a l ih =>
      rw [List.mapM_cons]
      exact (h a).bind fun b hb => ih.bind fun bs hbs => returns_pure (List.forall_mem_cons.mpr ⟨hb, hbs⟩)

/-! ## Scalars -/

theorem isScalar_of_whole? {cs : List Char} {v : Setting} (h : whole? cs = some v) :
    v.isScalar = true := by
  unfold whole? at h
  split at h
  all_goals
    obtain ⟨n, -, h⟩ := Option.bind_eq_some_iff.mp h
    split_ifs at h
    exact Option.some.inj h ▸ rfl

theorem isScalar_plain (s : String) : (plain s).isScalar = true := by
  unfold plain
  dsimp only
  split
  · rfl
  · split
    · rfl
    · split
      next h => exact isScalar_of_whole? h
      next => split <;> rfl

theorem isScalar_of_scalar {tag : Option NodeTag} {style : ScalarStyle} {s : String} {v : Setting}
    (h : scalar tag style s = .ok v) : v.isScalar = true := by
  unfold scalar at h
  dsimp only at h
  split at h
  · -- a truth value
    split at h
    next w hw =>
      obtain ⟨b, -, rfl⟩ := Option.map_eq_some_iff.mp hw
      exact Except.ok.inj h ▸ rfl
    next => cases h
  · -- a whole number
    split at h
    next w hw => exact Except.ok.inj h ▸ isScalar_of_whole? hw
    next => cases h
  · -- a number
    split at h
    next w hw =>
      obtain ⟨x, -, rfl⟩ := Option.map_eq_some_iff.mp hw
      exact Except.ok.inj h ▸ rfl
    next => cases h
  · -- nothing
    split at h
    next w hw =>
      split_ifs at hw
      obtain rfl := Option.some.inj hw
      exact Except.ok.inj h ▸ rfl
    next => cases h
  · exact Except.ok.inj h ▸ rfl
  all_goals
    obtain rfl := Except.ok.inj h
    split_ifs
    · exact isScalar_plain s
    · rfl

/-! ## Nodes -/

theorem ordered_named (tag : Option NodeTag) {v : Setting} (h : Ordered v) : Ordered (named tag v) := by
  unfold named
  split
  · exact .table (List.pairwise_singleton _ _) (List.forall_mem_singleton.mpr h)
  · exact h

theorem ordered_ofEntries {es : Entries} (h : ∀ e ∈ es, Ordered e.2) : Ordered (ofEntries es) :=
  .table (sorted_collect es) fun e he => h e (mem_of_mem_collect he)

theorem returns_scalarAt (tag : Option NodeTag) (style : ScalarStyle) (text : String)
    (place : Option String) (m : Mark) : Returns (scalarAt tag style text place m) Ordered := by
  unfold scalarAt
  split
  next h => exact returns_pure (.scalar (isScalar_of_scalar h))
  next => exact returns_throw _

/-- The setting of a node has its names in order, at every depth. -/
theorem returns_setting (w : Walk) (depth : Nat) (place : Option String) (node : Node) :
    Returns (setting w depth place node) Ordered := by
  induction depth generalizing place node with
  | zero =>
      unfold setting
      refine (returns_true _).bind fun n _ => ?_
      cases n with
      | scalar tag style text m =>
          exact (returns_scalarAt tag style text place m).bind fun v hv => returns_pure (ordered_named tag hv)
      | sequence tag elements m => exact returns_throw _
      | mapping tag entries m => exact returns_throw _
      | unread e => exact returns_throw _
      | reference n => exact returns_pure (.scalar rfl)
  | succ depth ih =>
      unfold setting
      refine (returns_true _).bind fun n _ => ?_
      cases n with
      | scalar tag style text m =>
          exact (returns_scalarAt tag style text place m).bind fun v hv => returns_pure (ordered_named tag hv)
      | sequence tag elements m =>
          exact (returns_mapM (fun ⟨e, i⟩ => ih _ e) _).bind fun vs hvs =>
            returns_pure (ordered_named tag (.list hvs))
      | mapping tag entries m =>
          refine (returns_mapM (q := fun e => Ordered e.2) (fun e => ?_) _).bind fun es hes =>
            returns_pure (ordered_named tag (ordered_ofEntries hes))
          exact (returns_true _).bind fun name _ => (ih _ e.2).bind fun v hv => returns_pure hv
      | unread e => exact returns_throw _
      | reference n => exact returns_pure (.scalar rfl)

theorem returns_rootSettings (w : Walk) (root : Node) : Returns (rootSettings w root) Ordered := by
  unfold rootSettings
  split
  · exact returns_setting w maxDepth none _
  · exact returns_pure (.table List.Pairwise.nil fun e he => nomatch he)
  · exact (returns_true _).bind fun v _ => returns_throw _
  · exact returns_throw _
  · exact returns_throw _
  · exact returns_pure (.scalar rfl)

theorem ordered_of_settings {d : Document} {v : Setting} (h : d.settings = .ok v) : Ordered v := by
  unfold Document.settings at h
  dsimp only at h
  split at h
  all_goals
    -- what follows the root only throws
    obtain ⟨u, hu, h⟩ := bind_eq_ok_iff.mp h
    split at h
    · cases h
    split_ifs at h
    · cases h
    obtain rfl := Except.ok.inj h
  · obtain rfl := Except.ok.inj hu
    exact .table List.Pairwise.nil fun e he => nomatch he
  · obtain ⟨⟨w, m⟩, hw, rfl⟩ := map_eq_ok_iff.mp hu
    exact returns_rootSettings _ _ 0 w m hw

/-- The settings of a text have their names in order, at every depth. -/
theorem ordered_of_read {text : String} {v : Setting} (h : read text = .ok v) : Ordered v := by
  unfold read at h
  dsimp only at h
  split at h
  · cases h
  · exact ordered_of_settings h

end ExprGateway.Yaml
