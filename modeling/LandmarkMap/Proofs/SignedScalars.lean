import LandmarkMap.Proofs.DoubleShapes
import LandmarkMap.Proofs.Exact.Reals

set_option autoImplicit false

namespace LandmarkMap

-- Two scalars that no comparison tells apart, like the two zeros of rounded arithmetic. What is not a
-- number is the same as itself.
def Same {α : Type} [Scalar α] (a b : α) : Prop := a = b ∨ (a == b) = true

-- Arithmetic that prefers no sign. No law of associativity or distribution is asked for, so that this is true
-- of rounded numbers as well. Their zeros have a sign, which a sum that cancels does not negate.
class SignedScalar (α : Type) [Scalar α] : Prop where
  neg_neg : ∀ a : α, - -a = a
  neg_mul : ∀ a b : α, -a * b = -(a * b)
  mul_neg : ∀ a b : α, a * -b = -(a * b)
  neg_div : ∀ a b : α, -a / b = -(a / b)
  sub_eq : ∀ a b : α, a - b = a + -b
  finite : ∀ a : α, Scalar.isFinite (-a) = Scalar.isFinite a
  neg_zero : Same (-0 : α) 0
  neg_sum : ∀ a b : α, Same (-a + -b) (-(a + b))
  side : ∀ a : α, 0 < a ∨ a < 0 → (-a < 0 ↔ ¬ a < 0)
  symm : ∀ a b : α, Same a b → Same b a
  trans : ∀ a b c : α, Same a b → Same b c → Same a c
  neg : ∀ a b : α, Same a b → Same (-a) (-b)
  sum : ∀ a b c d : α, Same a b → Same c d → Same (a + c) (b + d)
  product : ∀ a b c d : α, Same a b → Same c d → Same (a * c) (b * d)
  quotient : ∀ a b c : α, Same a b → Same (a / c) (b / c)
  below : ∀ a b : α, Same a b → (a < 0 ↔ b < 0)

theorem same_refl {α : Type} [Scalar α] (a : α) : Same a a := .inl rfl

theorem same_reals (a b : ℝ) : Same a b ↔ a = b := or_iff_left_of_imp of_decide_eq_true

instance signed_real : SignedScalar ℝ where
  neg_neg := neg_neg
  neg_mul := neg_mul
  mul_neg := mul_neg
  neg_div a b := neg_div b a
  sub_eq := sub_eq_add_neg
  finite _ := rfl
  neg_zero := .inl neg_zero
  neg_sum a b := .inl (neg_add a b).symm
  side a apart := by
    rw [neg_lt_zero, not_lt]
    exact ⟨le_of_lt, fun above => apart.resolve_right (not_lt.mpr above)⟩
  symm a b same := by
    rw [same_reals] at same ⊢
    exact same.symm
  trans a b c first second := by
    rw [same_reals] at first second ⊢
    exact first.trans second
  neg a b same := by
    rw [same_reals] at same ⊢
    rw [same]
  sum a b c d first second := by
    rw [same_reals] at first second ⊢
    rw [first, second]
  product a b c d first second := by
    rw [same_reals] at first second ⊢
    rw [first, second]
  quotient a b c same := by
    rw [same_reals] at same ⊢
    rw [same]
  below a b same := by
    rw [same_reals] at same
    rw [same]

namespace Double

open Float.Model Float.Model.UnpackedFloat

def IsZero (u : UnpackedFloat) : Prop := ∃ s, u = .zero s

theorem pack_unpacked (x : Float.Model) : Float.Model.pack x.unpack = x := by
  obtain ⟨bits, valid⟩ := x
  have same : UnpackedFloat.pack Format.binary64 (UnpackedFloat.unpack Format.binary64 bits.toBitVec) = bits.toBitVec :=
    pack_unpack_of_valid valid
  simp only [Float.Model.pack, Float.Model.unpack, same]

theorem same_unpacked (x y : Float) (same : x.toModel.unpack = y.toModel.unpack) : x = y :=
  calc x = Float.ofModel (Float.Model.pack x.toModel.unpack) := by rw [pack_unpacked]
    _ = Float.ofModel (Float.Model.pack y.toModel.unpack) := by rw [same]
    _ = y := by rw [pack_unpacked]

-- Numbers at one place are one number, or both are zeros.
theorem same_place (u v : UnpackedFloat) (first : u ≠ .notANumber) (second : v ≠ .notANumber) (same : placeOf u = placeOf v) :
    u = v ∨ (IsZero u ∧ IsZero v) := by
  cases u with
  | notANumber => exact absurd rfl first
  | infinity s =>
      cases v with
      | notANumber => exact absurd rfl second
      | infinity t => cases s <;> cases t <;> simp_all [placeOf]
      | zero t => cases s <;> simp_all [placeOf]
      | finite t n f _ => cases s <;> cases t <;> simp_all [placeOf]
  | zero s =>
      cases v with
      | notANumber => exact absurd rfl second
      | infinity t => cases t <;> simp_all [placeOf]
      | zero t => exact .inr ⟨⟨s, rfl⟩, ⟨t, rfl⟩⟩
      | finite t n f _ => cases t <;> simp_all [placeOf]
  | finite s m e _ =>
      cases v with
      | notANumber => exact absurd rfl second
      | infinity t => cases s <;> cases t <;> simp_all [placeOf]
      | zero t => cases s <;> simp_all [placeOf]
      | finite t n f _ => cases s <;> cases t <;> simp_all [placeOf]

theorem same_doubles (x y : Float) :
    Same x y ↔ x = y ∨ (IsZero x.toModel.unpack ∧ IsZero y.toModel.unpack) := by
  have meaning : (x == y) = (x.toModel.unpack.compare y.toModel.unpack == some .eq) := rfl
  rw [Same, meaning, beq_iff_eq]
  constructor
  · rintro (same | equal)
    · exact .inl same
    · by_cases nowhere : x.toModel.unpack = .notANumber ∨ y.toModel.unpack = .notANumber
      · rw [compare_nowhere _ _ nowhere] at equal
        cases equal
      · obtain ⟨first, second⟩ := not_or.mp nowhere
        rw [compare_places _ _ first second, Option.some_inj, compare_eq_iff_eq] at equal
        exact (same_place _ _ first second equal).imp_left (same_unpacked x y)
  · rintro (same | ⟨⟨s, first⟩, ⟨t, second⟩⟩)
    · exact .inl same
    · rw [first, second]
      exact .inr rfl

theorem unpack_negated_components (s : Sign) (exponent : BitVec Format.binary64.exponentBits)
    (mantissa : BitVec Format.binary64.mantissaBitsWithoutImplicit) :
    UnpackedFloat.unpack Format.binary64 (packComponents _ (-s) exponent mantissa) =
      (UnpackedFloat.unpack Format.binary64 (packComponents _ s exponent mantissa)).neg := by
  simp only [UnpackedFloat.unpack, unpackExponent_packComponents, unpackMantissa_packComponents, unpackSign_packComponents,
    Sign.ofBitVec_toBitVec]
  split_ifs <;> rfl

-- Packing rounds to what has room, on both sides of the origin alike.
theorem unpack_negated (u : UnpackedFloat) : (Float.Model.pack u.neg).unpack = (Float.Model.pack u).unpack.neg := by
  change UnpackedFloat.unpack Format.binary64 (UnpackedFloat.pack Format.binary64 u.neg) =
    (UnpackedFloat.unpack Format.binary64 (UnpackedFloat.pack Format.binary64 u)).neg
  cases u with
  | notANumber =>
      rw [UnpackedFloat.neg, UnpackedFloat.pack, unpack_packedNaN]
      rfl
  | infinity s => exact unpack_negated_components s _ _
  | zero s => exact unpack_negated_components s _ _
  | finite s m e positive =>
      simp only [UnpackedFloat.neg, UnpackedFloat.pack]
      split_ifs
      · exact unpack_negated_components s _ _
      · exact unpack_negated_components s _ _
      · exact unpack_negated_components s _ _

theorem neg_unpacked (x : Float) : (-x).toModel.unpack = x.toModel.unpack.neg := unpack_neg x.toModel

theorem negated_pack (u : UnpackedFloat) : Float.ofModel (Float.Model.pack u.neg) = -Float.ofModel (Float.Model.pack u) := by
  apply same_unpacked
  rw [neg_unpacked]
  exact unpack_negated u

theorem negated_rounding (s : Sign) (m : Nat) (e : Int) (accuracy : Accuracy) :
    roundWithAccuracy Format.binary64 (-s) m e accuracy = (roundWithAccuracy Format.binary64 s m e accuracy).neg := by
  rw [roundWithAccuracy, roundWithAccuracy]
  dsimp only
  split_ifs <;> rfl

theorem negated_product (u v : UnpackedFloat) :
    UnpackedFloat.mul Format.binary64 u.neg v = (UnpackedFloat.mul Format.binary64 u v).neg := by
  have signs : ∀ s t : Sign, -s * t = -(s * t) := by decide
  cases u with
  | notANumber => rfl
  | infinity s => cases v <;> simp [UnpackedFloat.mul, UnpackedFloat.neg, signs]
  | zero s => cases v <;> simp [UnpackedFloat.mul, UnpackedFloat.neg, signs]
  | finite s m e _ => cases v <;> simp [UnpackedFloat.mul, UnpackedFloat.neg, signs, negated_rounding]

theorem negated_quotient (u v : UnpackedFloat) :
    UnpackedFloat.div Format.binary64 u.neg v = (UnpackedFloat.div Format.binary64 u v).neg := by
  have signs : ∀ s t : Sign, -s / t = -(s / t) := by decide
  cases u with
  | notANumber => rfl
  | infinity s => cases v <;> simp [UnpackedFloat.div, UnpackedFloat.neg, signs]
  | zero s => cases v <;> simp [UnpackedFloat.div, UnpackedFloat.neg, signs]
  | finite s m e _ => cases v <;> simp [UnpackedFloat.div, UnpackedFloat.neg, signs, negated_rounding]

theorem product_comm (x y : Float) : x * y = y * x := by
  have signs : ∀ s t : Sign, s * t = t * s := by decide
  have same : UnpackedFloat.mul Format.binary64 x.toModel.unpack y.toModel.unpack =
      UnpackedFloat.mul Format.binary64 y.toModel.unpack x.toModel.unpack := by
    cases x.toModel.unpack <;> cases y.toModel.unpack <;> simp [UnpackedFloat.mul, signs, Nat.mul_comm, Int.add_comm]
  exact congrArg (fun u => Float.ofModel (Float.Model.pack u)) same

theorem sum_comm (x y : Float) : x + y = y + x := by
  have same : UnpackedFloat.add Format.binary64 x.toModel.unpack y.toModel.unpack =
      UnpackedFloat.add Format.binary64 y.toModel.unpack x.toModel.unpack := by
    generalize x.toModel.unpack = u
    generalize y.toModel.unpack = v
    cases u with
    | notANumber => cases v <;> rfl
    | infinity s =>
        cases v with
        | infinity t => cases s <;> cases t <;> rfl
        | _ => rfl
    | zero s =>
        cases v with
        | zero t => cases s <;> cases t <;> rfl
        | _ => rfl
    | finite s m e _ =>
        cases v with
        | finite t n f _ => simp only [UnpackedFloat.add, min_comm e f, Int.add_comm]
        | _ => rfl
  exact congrArg (fun u => Float.ofModel (Float.Model.pack u)) same

theorem negated_normalization (mantissa e : Int) :
    UnpackedFloat.normalize Format.binary64 (-mantissa) e .positive =
        (UnpackedFloat.normalize Format.binary64 mantissa e .positive).neg ∨
      (IsZero (UnpackedFloat.normalize Format.binary64 (-mantissa) e .positive) ∧
        IsZero (UnpackedFloat.normalize Format.binary64 mantissa e .positive)) := by
  rcases lt_trichotomy mantissa 0 with before | none | after
  · left
    rw [UnpackedFloat.normalize, UnpackedFloat.normalize, compare_lt_iff_lt.mpr before,
      compare_gt_iff_gt.mpr (Int.neg_pos_of_neg before)]
    exact negated_rounding .negative _ _ _
  · right
    rw [none]
    exact ⟨⟨.positive, rfl⟩, ⟨.positive, rfl⟩⟩
  · left
    rw [UnpackedFloat.normalize, UnpackedFloat.normalize, compare_gt_iff_gt.mpr after,
      compare_lt_iff_lt.mpr (Int.neg_neg_of_pos after), Int.neg_neg]
    exact negated_rounding .positive _ _ _

-- A sum that cancels is the positive zero on both sides.
theorem negated_sum (u v : UnpackedFloat) :
    UnpackedFloat.add Format.binary64 u.neg v.neg = (UnpackedFloat.add Format.binary64 u v).neg ∨
      (IsZero (UnpackedFloat.add Format.binary64 u.neg v.neg) ∧ IsZero (UnpackedFloat.add Format.binary64 u v)) := by
  cases u with
  | notANumber => exact .inl rfl
  | infinity s =>
      cases v with
      | infinity t => cases s <;> cases t <;> exact .inl rfl
      | _ => exact .inl rfl
  | zero s =>
      cases v with
      | zero t => exact .inr (by cases s <;> cases t <;> exact ⟨⟨_, rfl⟩, ⟨_, rfl⟩⟩)
      | _ => exact .inl rfl
  | finite s m e _ =>
      cases v with
      | finite t n f _ =>
          have signs : ∀ (s : Sign) (n : Int), (-s).apply n = -s.apply n := by
            intro s n
            cases s
            · exact (Int.neg_neg n).symm
            · rfl
          simp only [UnpackedFloat.add, UnpackedFloat.neg, signs, ← Int.neg_add]
          exact negated_normalization _ _
      | _ => exact .inl rfl

theorem neg_product (x y : Float) : -x * y = -(x * y) := by
  have turned : UnpackedFloat.mul Format.binary64 (-x).toModel.unpack y.toModel.unpack =
      (UnpackedFloat.mul Format.binary64 x.toModel.unpack y.toModel.unpack).neg := by
    rw [neg_unpacked, negated_product]
  exact (congrArg (fun u => Float.ofModel (Float.Model.pack u)) turned).trans (negated_pack _)

theorem neg_quotient (x y : Float) : -x / y = -(x / y) := by
  have turned : UnpackedFloat.div Format.binary64 (-x).toModel.unpack y.toModel.unpack =
      (UnpackedFloat.div Format.binary64 x.toModel.unpack y.toModel.unpack).neg := by
    rw [neg_unpacked, negated_quotient]
  exact (congrArg (fun u => Float.ofModel (Float.Model.pack u)) turned).trans (negated_pack _)

theorem same_packed (u v : UnpackedFloat) (known : u = v ∨ (IsZero u ∧ IsZero v)) :
    Same (Float.ofModel (Float.Model.pack u)) (Float.ofModel (Float.Model.pack v)) := by
  rcases known with same | ⟨⟨s, first⟩, ⟨t, second⟩⟩
  · rw [same]
    exact same_refl _
  · rw [first, second]
    exact (same_doubles _ _).mpr (.inr (by cases s <;> cases t <;> exact ⟨⟨_, rfl⟩, ⟨_, rfl⟩⟩))

theorem neg_sum (x y : Float) : Same (-x + -y) (-(x + y)) := by
  change Same (Float.ofModel (Float.Model.pack (UnpackedFloat.add Format.binary64 (-x).toModel.unpack (-y).toModel.unpack)))
    (-Float.ofModel (Float.Model.pack (UnpackedFloat.add Format.binary64 x.toModel.unpack y.toModel.unpack)))
  rw [← negated_pack, neg_unpacked, neg_unpacked]
  refine same_packed _ _ ((negated_sum _ _).imp_right fun zeros => ⟨zeros.1, ?_⟩)
  obtain ⟨s, none⟩ := zeros.2
  exact ⟨-s, by rw [none]; rfl⟩

theorem sum_with_zero (x : Float) : Same (x + 0) x := by
  have kept : UnpackedFloat.add Format.binary64 x.toModel.unpack (.zero .positive) = x.toModel.unpack ∨
      (IsZero (UnpackedFloat.add Format.binary64 x.toModel.unpack (.zero .positive)) ∧ IsZero x.toModel.unpack) := by
    cases x.toModel.unpack with
    | zero s => exact .inr (by cases s <;> exact ⟨⟨_, rfl⟩, ⟨_, rfl⟩⟩)
    | _ => exact .inl rfl
  have packed := same_packed _ _ kept
  rwa [pack_unpacked] at packed

section Zeros

variable (u v w : UnpackedFloat) (first : IsZero u) (second : IsZero v)

include first second

theorem sum_of_zeros :
    UnpackedFloat.add Format.binary64 u w = UnpackedFloat.add Format.binary64 v w ∨
      (IsZero (UnpackedFloat.add Format.binary64 u w) ∧ IsZero (UnpackedFloat.add Format.binary64 v w)) := by
  obtain ⟨s, rfl⟩ := first
  obtain ⟨t, rfl⟩ := second
  cases w with
  | zero r => exact .inr (by cases s <;> cases t <;> cases r <;> exact ⟨⟨_, rfl⟩, ⟨_, rfl⟩⟩)
  | _ => exact .inl rfl

theorem product_of_zeros :
    UnpackedFloat.mul Format.binary64 u w = UnpackedFloat.mul Format.binary64 v w ∨
      (IsZero (UnpackedFloat.mul Format.binary64 u w) ∧ IsZero (UnpackedFloat.mul Format.binary64 v w)) := by
  obtain ⟨s, rfl⟩ := first
  obtain ⟨t, rfl⟩ := second
  cases w with
  | notANumber => exact .inl rfl
  | infinity r => exact .inl rfl
  | zero r => exact .inr ⟨⟨_, rfl⟩, ⟨_, rfl⟩⟩
  | finite r m e _ => exact .inr ⟨⟨_, rfl⟩, ⟨_, rfl⟩⟩

theorem quotient_of_zeros :
    UnpackedFloat.div Format.binary64 u w = UnpackedFloat.div Format.binary64 v w ∨
      (IsZero (UnpackedFloat.div Format.binary64 u w) ∧ IsZero (UnpackedFloat.div Format.binary64 v w)) := by
  obtain ⟨s, rfl⟩ := first
  obtain ⟨t, rfl⟩ := second
  cases w with
  | notANumber => exact .inl rfl
  | infinity r => exact .inr ⟨⟨_, rfl⟩, ⟨_, rfl⟩⟩
  | zero r => exact .inl rfl
  | finite r m e _ => exact .inr ⟨⟨_, rfl⟩, ⟨_, rfl⟩⟩

end Zeros

section Congruences

variable (x y z : Float)

theorem same_trans (first : Same x y) (second : Same y z) : Same x z := by
  rw [same_doubles] at first second ⊢
  rcases first with rfl | ⟨left, _⟩
  · exact second
  · rcases second with rfl | ⟨_, right⟩
    · exact .inr ⟨left, ‹_›⟩
    · exact .inr ⟨left, right⟩

theorem same_sum (same : Same x y) : Same (x + z) (y + z) := by
  rcases (same_doubles x y).mp same with rfl | ⟨first, second⟩
  · exact same_refl _
  · exact same_packed _ _ (sum_of_zeros _ _ z.toModel.unpack first second)

theorem same_product (same : Same x y) : Same (x * z) (y * z) := by
  rcases (same_doubles x y).mp same with rfl | ⟨first, second⟩
  · exact same_refl _
  · exact same_packed _ _ (product_of_zeros _ _ z.toModel.unpack first second)

theorem same_quotient (same : Same x y) : Same (x / z) (y / z) := by
  rcases (same_doubles x y).mp same with rfl | ⟨first, second⟩
  · exact same_refl _
  · exact same_packed _ _ (quotient_of_zeros _ _ z.toModel.unpack first second)

theorem same_opposite (same : Same x y) : Same (-x) (-y) := by
  rcases (same_doubles x y).mp same with rfl | ⟨⟨s, first⟩, ⟨t, second⟩⟩
  · exact same_refl _
  · refine (same_doubles _ _).mpr (.inr ?_)
    rw [neg_unpacked, neg_unpacked, first, second]
    exact ⟨⟨-s, rfl⟩, ⟨-t, rfl⟩⟩

theorem negative_shape : x < 0 ↔ (shape x).opposite.isPositive = true := by
  have zero : IsNumber (0 : Float) := (number_shape 0).mpr (by decide +kernel)
  rw [lt_places, place_zero, and_iff_right zero]
  change x.toModel.unpack ≠ .notANumber ∧ placeOf x.toModel.unpack < origin ↔
    (shapeOf x.toModel.unpack).opposite.isPositive = true
  have signs : -Sign.positive = Sign.negative ∧ -Sign.negative = Sign.positive := ⟨rfl, rfl⟩
  cases x.toModel.unpack with
  | notANumber => simp [shapeOf, Shape.opposite, Shape.isPositive]
  | infinity s => cases s <;> simp [shapeOf, Shape.opposite, Shape.isPositive, signs, origin, placeOf, Prod.Lex.toLex_lt_toLex]
  | zero s => simp [shapeOf, Shape.opposite, Shape.isPositive, origin, placeOf]
  | finite s m e positive =>
      cases s <;> simp [shapeOf, Shape.opposite, Shape.isPositive, signs, origin, placeOf, Prod.Lex.toLex_lt_toLex]

theorem same_side (same : Same x y) : x < 0 ↔ y < 0 := by
  rcases (same_doubles x y).mp same with rfl | ⟨⟨s, first⟩, ⟨t, second⟩⟩
  · exact Iff.rfl
  · rw [negative_shape, negative_shape, shape, shape, first, second]
    exact Iff.rfl

theorem opposite_side (apart : 0 < x ∨ x < 0) : -x < 0 ↔ ¬ x < 0 := by
  have law : ∀ a : Shape, a.isPositive = true ∨ a.opposite.isPositive = true →
      (a.opposite.opposite.isPositive = true ↔ ¬ a.opposite.isPositive = true) := by decide
  rw [positive_shape, negative_shape] at apart
  rw [negative_shape, negative_shape, opposite_shape]
  exact law _ apart

end Congruences

end Double

instance signed_double : SignedScalar Float where
  neg_neg x := by
    have signs : ∀ s : Float.Model.UnpackedFloat.Sign, - -s = s := by decide
    apply Double.same_unpacked
    rw [Double.neg_unpacked, Double.neg_unpacked]
    cases x.toModel.unpack <;> simp [Float.Model.UnpackedFloat.neg, signs]
  neg_mul := Double.neg_product
  mul_neg x y := by rw [Double.product_comm, Double.neg_product, Double.product_comm]
  neg_div := Double.neg_quotient
  sub_eq := Double.difference_sum
  finite x := by
    have law : ∀ a : Double.Shape, a.opposite.isFinite = a.isFinite := by decide
    exact (Double.finite_shape (-x)).trans (Double.opposite_shape x ▸ (law _).trans (Double.finite_shape x).symm)
  neg_zero := (Double.same_doubles _ _).mpr (.inr ⟨⟨.negative, rfl⟩, ⟨.positive, rfl⟩⟩)
  neg_sum := Double.neg_sum
  side := Double.opposite_side
  symm x y same := by
    rw [Double.same_doubles] at same ⊢
    exact same.imp Eq.symm And.symm
  trans := Double.same_trans
  neg := Double.same_opposite
  sum x y z w first second := by
    refine Double.same_trans _ _ _ (Double.same_sum x y z first) ?_
    rw [Double.sum_comm y z, Double.sum_comm y w]
    exact Double.same_sum z w y second
  product x y z w first second := by
    refine Double.same_trans _ _ _ (Double.same_product x y z first) ?_
    rw [Double.product_comm y z, Double.product_comm y w]
    exact Double.same_product z w y second
  quotient := Double.same_quotient
  below := Double.same_side

end LandmarkMap
