import ExprGateway.Operator
import ExprGateway.Proofs.Number.ReadBack

/-!
# Arithmetic and the sign of zero

An arithmetic respects zeros if it takes both of them for the same number: what it makes of the one and of
the other is the same number again, unless neither is finite, as in `1 / 0` and `1 / -0`.
The arithmetic of floats does (`ieee_respectsZeros`).  That is seen on unpacked floats, where a zero is a
constructor and the sign is its argument.
-/

namespace ExprGateway

open Binary64
open Float.Model (UnpackedFloat)
open Float.Model.UnpackedFloat (Sign)

/-- The results for the same numbers are the same number, or neither is finite. -/
def RespectsZeros (f : Operator → Float → Float → Float) : Prop :=
  ∀ (o : Operator) {a a' b b' : Float}, SameNumber a a' → SameNumber b b' →
    SameNumber (f o a b) (f o a' b') ∨ (f o a b).isFinite = false ∧ (f o a' b').isFinite = false

/-- The arithmetic of floats. -/
def ieee : Operator → Float → Float → Float
  | .add, a, b => a + b
  | .subtract, a, b => a - b
  | .multiply, a, b => a * b
  | .divide, a, b => a / b

/-! ## Unpacked floats -/

/-- The same unpacked float, if both zeros are one. -/
inductive SameUnpacked : UnpackedFloat → UnpackedFloat → Prop where
  | refl (u : UnpackedFloat) : SameUnpacked u u
  | zeros (s s' : Sign) : SameUnpacked (.zero s) (.zero s')

/-- The same, or neither finite. -/
inductive AgreeUnpacked (u u' : UnpackedFloat) : Prop where
  | same : SameUnpacked u u' → AgreeUnpacked u u'
  | infinite : u.isFinite = false → u'.isFinite = false → AgreeUnpacked u u'

namespace AgreeUnpacked

variable {u v w u' v' : UnpackedFloat}

theorem of_eq (h : u = v) : AgreeUnpacked u v := h ▸ .same (.refl u)

theorem of_zeros (s s' : Sign) : AgreeUnpacked (.zero s) (.zero s') := .same (.zeros s s')

theorem isFinite_eq (h : SameUnpacked u v) : u.isFinite = v.isFinite := by
  cases h <;> rfl

theorem trans (h : AgreeUnpacked u v) (h' : AgreeUnpacked v w) : AgreeUnpacked u w := by
  cases h with
  | same h =>
      cases h' with
      | same h' =>
          cases h with
          | refl => exact .same h'
          | zeros s s' =>
              cases h' with
              | refl => exact of_zeros s s'
              | zeros _ t => exact of_zeros s t
      | infinite hv hw => exact .infinite ((isFinite_eq h).trans hv) hw
  | infinite hu hv =>
      cases h' with
      | same h' => exact .infinite hu ((isFinite_eq h').symm.trans hv)
      | infinite _ hw => exact .infinite hu hw

/-- It is enough to look at one operand at a time. -/
theorem of_sides {op : UnpackedFloat → UnpackedFloat → UnpackedFloat}
    (hleft : ∀ (s s' : Sign) (v : UnpackedFloat), AgreeUnpacked (op (.zero s) v) (op (.zero s') v))
    (hright : ∀ (s s' : Sign) (u : UnpackedFloat), AgreeUnpacked (op u (.zero s)) (op u (.zero s')))
    (hu : SameUnpacked u u') (hv : SameUnpacked v v') : AgreeUnpacked (op u v) (op u' v') := by
  have h : AgreeUnpacked (op u v) (op u' v) := by
    cases hu with
    | refl => exact of_eq rfl
    | zeros s s' => exact hleft s s' v
  refine h.trans ?_
  cases hv with
  | refl => exact of_eq rfl
  | zeros s s' => exact hright s s' u'

variable (hu : SameUnpacked u u') (hv : SameUnpacked v v')
include hu hv

theorem add : AgreeUnpacked (.add .binary64 u v) (.add .binary64 u' v') := by
  refine of_sides (fun s s' v => ?_) (fun s s' u => ?_) hu hv
  · cases v with
    | zero t =>
        simp only [UnpackedFloat.add]
        split_ifs <;> exact of_zeros _ _
    | _ => exact of_eq rfl
  · cases u with
    | zero t =>
        simp only [UnpackedFloat.add]
        split_ifs <;> exact of_zeros _ _
    | _ => exact of_eq rfl

theorem sub : AgreeUnpacked (.sub .binary64 u v) (.sub .binary64 u' v') := by
  refine of_sides (fun s s' v => ?_) (fun s s' u => ?_) hu hv
  · cases v with
    | zero t =>
        simp only [UnpackedFloat.sub]
        split_ifs <;> exact of_zeros _ _
    | _ => exact of_eq rfl
  · cases u with
    | zero t =>
        simp only [UnpackedFloat.sub]
        split_ifs <;> exact of_zeros _ _
    | _ => exact of_eq rfl

theorem mul : AgreeUnpacked (.mul .binary64 u v) (.mul .binary64 u' v') := by
  refine of_sides (fun s s' v => ?_) (fun s s' u => ?_) hu hv
  · cases v with
    | infinity => exact of_eq rfl
    | notANumber => exact of_eq rfl
    | zero => exact of_zeros _ _
    | finite => exact of_zeros _ _
  · cases u with
    | infinity => exact of_eq rfl
    | notANumber => exact of_eq rfl
    | zero => exact of_zeros _ _
    | finite => exact of_zeros _ _

/-- A quotient by zero is never finite, and is infinite on the side of the sign of zero. -/
theorem div : AgreeUnpacked (.div .binary64 u v) (.div .binary64 u' v') := by
  refine of_sides (fun s s' v => ?_) (fun s s' u => ?_) hu hv
  · cases v with
    | infinity => exact of_zeros _ _
    | notANumber => exact of_eq rfl
    | zero => exact of_eq rfl
    | finite => exact of_zeros _ _
  · cases u with
    | infinity => exact .infinite rfl rfl
    | notANumber => exact of_eq rfl
    | zero => exact of_eq rfl
    | finite => exact .infinite rfl rfl

end AgreeUnpacked

/-! ## Floats -/

theorem unpack_of_rank_eq_zero {x : Float} (h : rank x = 0) :
    ∃ s, x.toModel.unpack = .zero s := by
  have hx : x = ofRank (isNegative x) 0 := h ▸ (ofRank_rank x).symm
  rw [hx]
  cases isNegative x
  · exact ⟨.positive, rfl⟩
  · exact ⟨.negative, rfl⟩

theorem SameNumber.unpacked {x x' : Float} (h : SameNumber x x') :
    SameUnpacked x.toModel.unpack x'.toModel.unpack := by
  rcases h with rfl | ⟨hx, hx'⟩
  · exact .refl _
  · obtain ⟨s, hs⟩ := unpack_of_rank_eq_zero hx
    obtain ⟨s', hs'⟩ := unpack_of_rank_eq_zero hx'
    rw [hs, hs']
    exact .zeros s s'

/-- A float that is packed. -/
def packed (u : UnpackedFloat) : Float := ⟨Float.Model.pack u⟩

theorem isFinite_packed {u : UnpackedFloat} (h : u.isFinite = false) : (packed u).isFinite = false := by
  cases u with
  | infinity s => cases s <;> rfl
  | notANumber => rfl
  | zero => cases h
  | finite => cases h

theorem rank_packed_zero (s : Sign) : rank (packed (.zero s)) = 0 := by
  cases s <;> rfl

theorem AgreeUnpacked.packed {u u' : UnpackedFloat} (h : AgreeUnpacked u u') :
    SameNumber (packed u) (packed u') ∨
      (ExprGateway.packed u).isFinite = false ∧ (ExprGateway.packed u').isFinite = false := by
  cases h with
  | same h =>
      cases h with
      | refl => exact .inl (.refl _)
      | zeros s s' => exact .inl (.inr ⟨rank_packed_zero s, rank_packed_zero s'⟩)
  | infinite hu hu' => exact .inr ⟨isFinite_packed hu, isFinite_packed hu'⟩

/-- The arithmetic of floats respects zeros. -/
theorem ieee_respectsZeros : RespectsZeros ieee := by
  intro o a a' b b' ha hb
  cases o with
  | add => exact (AgreeUnpacked.add ha.unpacked hb.unpacked).packed
  | subtract => exact (AgreeUnpacked.sub ha.unpacked hb.unpacked).packed
  | multiply => exact (AgreeUnpacked.mul ha.unpacked hb.unpacked).packed
  | divide => exact (AgreeUnpacked.div ha.unpacked hb.unpacked).packed

end ExprGateway
