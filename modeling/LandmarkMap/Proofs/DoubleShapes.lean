import LandmarkMap.Proofs.Doubles

set_option autoImplicit false

namespace LandmarkMap.Double

open Float.Model Float.Model.UnpackedFloat

instance signDecidableEq : DecidableEq Sign := instDecidableEqOfLawfulBEq

instance signFintype : Fintype Sign := ⟨{Sign.positive, Sign.negative}, fun s => by cases s <;> decide⟩

-- What is left of a double without its magnitude.
inductive Shape where
  | nowhere
  | infinite (s : Sign)
  | zero (s : Sign)
  | finite (s : Sign)
deriving DecidableEq, Fintype

namespace Shape

-- A finite result may vanish or overflow when it is rounded. No other shape changes.
def rounded : Shape → List Shape
  | finite s => [zero s, finite s, infinite s]
  | other => [other]

def isFinite : Shape → Bool
  | zero _ => true
  | finite _ => true
  | _ => false

def isPositive : Shape → Bool
  | infinite .positive => true
  | finite .positive => true
  | _ => false

def isVoid : Shape → Bool
  | nowhere => true
  | zero _ => true
  | _ => false

def opposite : Shape → Shape
  | nowhere => nowhere
  | infinite s => infinite (-s)
  | zero s => zero (-s)
  | finite s => finite (-s)

-- The shapes that a sum of two shapes can have, and so on for the other operations.
def sum : Shape → Shape → List Shape
  | nowhere, _ => [nowhere]
  | _, nowhere => [nowhere]
  | infinite s, infinite t => if s == t then [infinite s] else [nowhere]
  | infinite s, _ => [infinite s]
  | _, infinite t => [infinite t]
  | zero s, zero t => if s == t then [zero s] else [zero .positive]
  | zero _, finite t => rounded (finite t)
  | finite s, zero _ => rounded (finite s)
  | finite s, finite t => if s == t then rounded (finite s) else rounded (finite s) ++ rounded (finite t)

def product : Shape → Shape → List Shape
  | nowhere, _ => [nowhere]
  | _, nowhere => [nowhere]
  | infinite _, zero _ => [nowhere]
  | zero _, infinite _ => [nowhere]
  | infinite s, infinite t => [infinite (s * t)]
  | infinite s, finite t => [infinite (s * t)]
  | finite s, infinite t => [infinite (s * t)]
  | zero s, zero t => [zero (s * t)]
  | zero s, finite t => [zero (s * t)]
  | finite s, zero t => [zero (s * t)]
  | finite s, finite t => rounded (finite (s * t))

def quotient : Shape → Shape → List Shape
  | nowhere, _ => [nowhere]
  | _, nowhere => [nowhere]
  | infinite _, infinite _ => [nowhere]
  | zero _, zero _ => [nowhere]
  | infinite s, zero t => [infinite (s / t)]
  | infinite s, finite t => [infinite (s / t)]
  | finite s, zero t => [infinite (s / t)]
  | zero s, infinite t => [zero (s / t)]
  | finite s, infinite t => [zero (s / t)]
  | zero s, finite t => [zero (s / t)]
  | finite s, finite t => rounded (finite (s / t))

def root : Shape → List Shape
  | nowhere => [nowhere]
  | zero s => [zero s]
  | infinite .positive => [infinite .positive]
  | finite .positive => rounded (finite .positive)
  | _ => [nowhere]

end Shape

def shapeOf : UnpackedFloat → Shape
  | .notANumber => .nowhere
  | .infinity s => .infinite s
  | .zero s => .zero s
  | .finite s _ _ _ => .finite s

def shape (x : Float) : Shape := shapeOf x.toModel.unpack

-- An exponent that is not the last one is that of a zero or of a finite number.
theorem components_shape (s : Sign) (exponent : BitVec Format.binary64.exponentBits)
    (mantissa : BitVec Format.binary64.mantissaBitsWithoutImplicit) (inside : exponent ≠ -1#_) :
    shapeOf (UnpackedFloat.unpack Format.binary64 (packComponents _ s exponent mantissa)) = .zero s ∨
      shapeOf (UnpackedFloat.unpack Format.binary64 (packComponents _ s exponent mantissa)) = .finite s := by
  simp only [UnpackedFloat.unpack, unpackExponent_packComponents, unpackMantissa_packComponents,
    unpackSign_packComponents, Sign.ofBitVec_toBitVec]
  rw [if_neg inside]
  split_ifs
  · exact .inl rfl
  · exact .inr rfl
  · exact .inr rfl

theorem packed_shape (u : UnpackedFloat) : shapeOf (Float.Model.pack u).unpack ∈ (shapeOf u).rounded := by
  change shapeOf (UnpackedFloat.unpack Format.binary64 (UnpackedFloat.pack Format.binary64 u)) ∈ _
  cases u with
  | notANumber =>
      rw [UnpackedFloat.pack, unpack_packedNaN]
      exact List.mem_singleton.mpr rfl
  | infinity s => cases s <;> exact List.mem_singleton.mpr rfl
  | zero s => cases s <;> exact List.mem_singleton.mpr rfl
  | finite s m e positive =>
      have listed : ∀ r, r = Shape.zero s ∨ r = Shape.finite s ∨ r = Shape.infinite s →
          r ∈ (shapeOf (.finite s m e positive)).rounded := by
        intro r known
        simpa [shapeOf, Shape.rounded] using known
      apply listed
      simp only [UnpackedFloat.pack]
      split_ifs with far normal
      · refine .inr (.inr ?_)
        cases s <;> rfl
      · have inside : BitVec.ofNat Format.binary64.exponentBits
            (e + Format.binary64.exponentBias + Format.binary64.mantissaBitsWithoutImplicit).toNat ≠ -1#_ := by
          intro last
          have count := congrArg BitVec.toNat last
          rw [BitVec.toNat_ofNat, Nat.mod_eq_of_lt (Nat.lt_of_succ_lt (not_le.mp far))] at count
          rw [count] at far
          exact far (by decide)
        exact (components_shape s _ _ inside).imp_right .inl
      · exact (components_shape s _ _ (by decide)).imp_right .inl

theorem rounding_shape (s : Sign) (m : Nat) (e : Int) (accuracy : Accuracy) :
    shapeOf (roundWithAccuracy Format.binary64 s m e accuracy) = .zero s ∨
      shapeOf (roundWithAccuracy Format.binary64 s m e accuracy) = .finite s := by
  rw [roundWithAccuracy]
  dsimp only
  split_ifs
  · exact .inl rfl
  · exact .inr rfl

theorem rounded_twice (s : Sign) (u : UnpackedFloat) (known : shapeOf u = .zero s ∨ shapeOf u = .finite s) :
    shapeOf (Float.Model.pack u).unpack ∈ Shape.rounded (.finite s) := by
  have packed := packed_shape u
  rcases known with same | same
  · rw [same] at packed
    exact List.mem_cons.mpr (.inl (List.mem_singleton.mp packed))
  · rwa [same] at packed

section Normalized

variable (mantissa e : Int)

theorem normalized_positive (after : 0 < mantissa) :
    shapeOf (Float.Model.pack (UnpackedFloat.normalize Format.binary64 mantissa e .positive)).unpack ∈
      Shape.rounded (.finite .positive) := by
  rw [UnpackedFloat.normalize, compare_gt_iff_gt.mpr after]
  exact rounded_twice .positive _ (rounding_shape _ _ _ _)

theorem normalized_negative (before : mantissa < 0) :
    shapeOf (Float.Model.pack (UnpackedFloat.normalize Format.binary64 mantissa e .positive)).unpack ∈
      Shape.rounded (.finite .negative) := by
  rw [UnpackedFloat.normalize, compare_lt_iff_lt.mpr before]
  exact rounded_twice .negative _ (rounding_shape _ _ _ _)

theorem normalized_shape :
    shapeOf (Float.Model.pack (UnpackedFloat.normalize Format.binary64 mantissa e .positive)).unpack ∈
      Shape.rounded (.finite .positive) ++ Shape.rounded (.finite .negative) := by
  rcases lt_trichotomy mantissa 0 with before | none | after
  · exact List.mem_append_right _ (normalized_negative mantissa e before)
  · rw [UnpackedFloat.normalize, compare_eq_iff_eq.mpr none]
    exact List.mem_append_left _ (rounded_twice .positive _ (.inl rfl))
  · exact List.mem_append_left _ (normalized_positive mantissa e after)

end Normalized

-- Two finite numbers of one sign do not cancel.
theorem finite_sum_shape (s t : Sign) (m n : Nat) (e f : Int) (first : 0 < m) (second : 0 < n) :
    shapeOf (Float.Model.pack (UnpackedFloat.add Format.binary64 (.finite s m e first) (.finite t n f second))).unpack ∈
      (Shape.finite s).sum (.finite t) := by
  simp only [UnpackedFloat.add, decreaseExponent]
  have left : 0 < m <<< (e - min e f).toNat := by rw [Nat.shiftLeft_eq]; positivity
  have right : 0 < n <<< (f - min e f).toNat := by rw [Nat.shiftLeft_eq]; positivity
  generalize m <<< (e - min e f).toNat = a at left ⊢
  generalize n <<< (f - min e f).toNat = b at right ⊢
  cases s with
  | positive =>
      cases t with
      | positive => exact normalized_positive _ _ (by simp only [Sign.apply]; omega)
      | negative => exact normalized_shape _ _
  | negative =>
      cases t with
      | positive =>
          exact List.mem_append.mpr (List.mem_append.mp (normalized_shape _ _)).symm
      | negative => exact normalized_negative _ _ (by simp only [Sign.apply]; omega)

theorem sum_shape (x y : Float) : shape (x + y) ∈ (shape x).sum (shape y) := by
  change shapeOf (Float.Model.pack (UnpackedFloat.add Format.binary64 x.toModel.unpack y.toModel.unpack)).unpack ∈
    (shapeOf x.toModel.unpack).sum (shapeOf y.toModel.unpack)
  generalize x.toModel.unpack = u
  generalize y.toModel.unpack = v
  have packed := packed_shape (UnpackedFloat.add Format.binary64 u v)
  cases u with
  | notANumber => exact packed
  | infinity s =>
      cases v with
      | notANumber => exact packed
      | infinity t => cases s <;> cases t <;> exact packed
      | zero t => exact packed
      | finite t m e positive => exact packed
  | zero s =>
      cases v with
      | notANumber => exact packed
      | infinity t => exact packed
      | zero t => cases s <;> cases t <;> exact packed
      | finite t m e positive => exact packed
  | finite s m e first =>
      cases v with
      | notANumber => exact packed
      | infinity t => exact packed
      | zero t => exact packed
      | finite t n f second => exact finite_sum_shape s t m n e f first second

theorem product_shape (x y : Float) : shape (x * y) ∈ (shape x).product (shape y) := by
  change shapeOf (Float.Model.pack (UnpackedFloat.mul Format.binary64 x.toModel.unpack y.toModel.unpack)).unpack ∈
    (shapeOf x.toModel.unpack).product (shapeOf y.toModel.unpack)
  generalize x.toModel.unpack = u
  generalize y.toModel.unpack = v
  have packed := packed_shape (UnpackedFloat.mul Format.binary64 u v)
  cases u with
  | notANumber => exact packed
  | infinity s => cases v <;> exact packed
  | zero s => cases v <;> exact packed
  | finite s m e first =>
      cases v with
      | notANumber => exact packed
      | infinity t => exact packed
      | zero t => exact packed
      | finite t n f second => exact rounded_twice (s * t) _ (rounding_shape _ _ _ _)

theorem quotient_shape (x y : Float) : shape (x / y) ∈ (shape x).quotient (shape y) := by
  change shapeOf (Float.Model.pack (UnpackedFloat.div Format.binary64 x.toModel.unpack y.toModel.unpack)).unpack ∈
    (shapeOf x.toModel.unpack).quotient (shapeOf y.toModel.unpack)
  generalize x.toModel.unpack = u
  generalize y.toModel.unpack = v
  have packed := packed_shape (UnpackedFloat.div Format.binary64 u v)
  cases u with
  | notANumber => exact packed
  | infinity s => cases v <;> exact packed
  | zero s => cases v <;> exact packed
  | finite s m e first =>
      cases v with
      | notANumber => exact packed
      | infinity t => exact packed
      | zero t => exact packed
      | finite t n f second => exact rounded_twice (s / t) _ (rounding_shape _ _ _ _)

theorem root_shape (x : Float) : shape x.sqrt ∈ (shape x).root := by
  change shapeOf (Float.Model.pack (UnpackedFloat.sqrt Format.binary64 x.toModel.unpack)).unpack ∈
    (shapeOf x.toModel.unpack).root
  generalize x.toModel.unpack = u
  have packed := packed_shape (UnpackedFloat.sqrt Format.binary64 u)
  cases u with
  | notANumber => exact packed
  | infinity s => cases s <;> exact packed
  | zero s => exact packed
  | finite s m e positive =>
      cases s with
      | negative => exact packed
      | positive => exact rounded_twice .positive _ (rounding_shape _ _ _ _)

theorem opposite_shape (x : Float) : shape (-x) = (shape x).opposite := by
  change shapeOf (-x.toModel).unpack = (shapeOf x.toModel.unpack).opposite
  rw [unpack_neg]
  cases x.toModel.unpack <;> rfl

theorem difference_sum (x y : Float) : x - y = x + -y := by
  have signed : ∀ (s : Sign) (n : Int), (-s).apply n = -s.apply n := by
    intro s n
    cases s
    · exact (Int.neg_neg n).symm
    · rfl
  have less : UnpackedFloat.sub Format.binary64 x.toModel.unpack y.toModel.unpack =
      UnpackedFloat.add Format.binary64 x.toModel.unpack (-y.toModel).unpack := by
    rw [unpack_neg]
    cases x.toModel.unpack with
    | finite s m e first =>
        cases y.toModel.unpack with
        | finite t n f second => simp only [UnpackedFloat.sub, UnpackedFloat.neg, UnpackedFloat.add, signed, sub_eq_add_neg]
        | _ => rfl
    | _ => cases y.toModel.unpack <;> rfl
  exact congrArg (fun u => Float.ofModel (Float.Model.pack u)) less

theorem difference_shape (x y : Float) : shape (x - y) ∈ (shape x).sum (shape y).opposite := by
  rw [difference_sum, ← opposite_shape]
  exact sum_shape x (-y)

theorem finite_shape (x : Float) : x.isFinite = (shape x).isFinite := by
  change x.toModel.unpack.isFinite = (shapeOf x.toModel.unpack).isFinite
  cases x.toModel.unpack <;> rfl

theorem number_shape (x : Float) : IsNumber x ↔ shape x ≠ .nowhere := by
  change x.toModel.unpack ≠ .notANumber ↔ shapeOf x.toModel.unpack ≠ .nowhere
  cases x.toModel.unpack <;> simp [shapeOf]

theorem abs_number (x : Float) (number : IsNumber x) : IsNumber x.abs := by
  have packed : shape x.abs ∈ (shapeOf x.toModel.unpack.abs).rounded := packed_shape _
  rw [number_shape]
  intro nowhere
  rw [nowhere] at packed
  cases same : x.toModel.unpack with
  | notANumber => exact number same
  | infinity s => simp [same, UnpackedFloat.abs, shapeOf, Shape.rounded] at packed
  | zero s => simp [same, UnpackedFloat.abs, shapeOf, Shape.rounded] at packed
  | finite s m e positive => simp [same, UnpackedFloat.abs, shapeOf, Shape.rounded] at packed

theorem positive_shape (x : Float) : 0 < x ↔ (shape x).isPositive = true := by
  have zero : IsNumber (0 : Float) := (number_shape 0).mpr (by decide +kernel)
  rw [lt_places, place_zero, and_iff_right zero]
  change x.toModel.unpack ≠ .notANumber ∧ origin < placeOf x.toModel.unpack ↔ (shapeOf x.toModel.unpack).isPositive = true
  cases x.toModel.unpack with
  | notANumber => simp [shapeOf, Shape.isPositive]
  | infinity s => cases s <;> simp [shapeOf, Shape.isPositive, origin, placeOf, Prod.Lex.toLex_lt_toLex]
  | zero s => simp [shapeOf, Shape.isPositive, origin, placeOf]
  | finite s m e positive => cases s <;> simp [shapeOf, Shape.isPositive, origin, placeOf, Prod.Lex.toLex_lt_toLex]

-- What the shapes tell of all doubles.

theorem finite_summand (x y : Float) (finite : (x + y).isFinite = true) : x.isFinite = true := by
  have law : ∀ a b : Shape, ∀ r ∈ a.sum b, r.isFinite = true → a.isFinite = true := by decide
  rw [finite_shape] at finite ⊢
  exact law _ _ _ (sum_shape x y) finite

theorem finite_dividend (x y : Float) (finite : (x / y).isFinite = true) : x.isFinite = true := by
  have law : ∀ a b : Shape, ∀ r ∈ a.quotient b, r.isFinite = true → a.isFinite = true := by decide
  rw [finite_shape] at finite ⊢
  exact law _ _ _ (quotient_shape x y) finite

theorem positive_less_square (x y : Float) (positive : 0 < x + -y * y) : 0 < x ∧ y.isFinite = true := by
  have law : ∀ a b : Shape, ∀ p ∈ b.opposite.product b, ∀ r ∈ a.sum p, r.isPositive = true →
      a.isPositive = true ∧ b.isFinite = true := by decide
  have square := product_shape (-y) y
  rw [opposite_shape] at square
  rw [positive_shape] at positive ⊢
  rw [finite_shape]
  exact law _ _ _ square _ (sum_shape x _) positive

theorem infinite_root (x : Float) (positive : 0 < x) (infinite : x.isFinite = false) :
    shape x.sqrt = .infinite .positive := by
  have law : ∀ a : Shape, a.isPositive = true → a.isFinite = false → ∀ r ∈ a.root, r = .infinite .positive := by decide
  rw [positive_shape] at positive
  rw [finite_shape] at infinite
  exact law _ positive infinite _ (root_shape x)

theorem quotient_of_infinite (x y : Float) (infinite : shape y = .infinite .positive) : (shape (x / y)).isVoid = true := by
  have law : ∀ a : Shape, ∀ r ∈ a.quotient (.infinite .positive), r.isVoid = true := by decide
  have quotient := quotient_shape x y
  rw [infinite] at quotient
  exact law _ _ quotient

theorem void_half_sum (x y : Float) (first : (shape x).isVoid = true) : ¬ 0 < (x + x) * y := by
  have law : ∀ a b : Shape, a.isVoid = true → ∀ s ∈ a.sum a, ∀ r ∈ s.product b, r.isPositive = false := by decide
  rw [positive_shape, Bool.not_eq_true]
  exact law _ _ first _ (sum_shape x x) _ (product_shape (x + x) y)

theorem finite_difference (x y : Float) (first : x.isFinite = true) (second : y.isFinite = true) : IsNumber (x - y) := by
  have law : ∀ a b : Shape, a.isFinite = true → b.isFinite = true → ∀ r ∈ a.sum b.opposite, r ≠ .nowhere := by decide
  rw [finite_shape] at first second
  exact (number_shape _).mpr (law _ _ first second _ (difference_shape x y))

end LandmarkMap.Double
