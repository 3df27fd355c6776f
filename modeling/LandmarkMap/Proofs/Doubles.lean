import Mathlib
import LandmarkMap.Scalar

set_option autoImplicit false

namespace LandmarkMap.Double

open Float.Model Float.Model.UnpackedFloat

-- Where a double lies on the number line: its side, then its exponent, then its mantissa. Both zeros lie at one
-- place, and what is not a number lies nowhere, so its place means nothing.
def placeOf : UnpackedFloat → ℤ ×ₗ ℤ ×ₗ ℤ
  | .notANumber => toLex (0, toLex (0, 0))
  | .infinity .negative => toLex (-2, toLex (0, 0))
  | .infinity .positive => toLex (2, toLex (0, 0))
  | .zero _ => toLex (0, toLex (0, 0))
  | .finite .negative m e _ => toLex (-1, toLex (-e, -m))
  | .finite .positive m e _ => toLex (1, toLex (e, m))

def origin : ℤ ×ₗ ℤ ×ₗ ℤ := toLex (0, toLex (0, 0))

theorem compare_casts (m n : ℕ) : compare (m : ℤ) n = compare m n := by
  simp only [compare, compareOfLessAndEq, Nat.cast_lt, Nat.cast_inj]

theorem compare_opposites (a b : ℤ) : compare (-a) (-b) = (compare a b).swap := by
  rcases lt_trichotomy a b with less | same | more
  · rw [compare_lt_iff_lt.mpr less, compare_gt_iff_gt.mpr (neg_lt_neg less)]
    rfl
  · rw [same, compare_eq_iff_eq.mpr rfl, compare_eq_iff_eq.mpr rfl]
    rfl
  · rw [compare_gt_iff_gt.mpr more, compare_lt_iff_lt.mpr (neg_lt_neg more)]
    rfl

theorem compare_finite (s t : Sign) (m n : ℕ) (e f : ℤ) (first : 0 < m) (second : 0 < n) :
    UnpackedFloat.compare (.finite s m e first) (.finite t n f second) =
      some (compare (placeOf (.finite s m e first)) (placeOf (.finite t n f second))) := by
  cases s with
  | positive =>
      cases t with
      | positive =>
          have parts : compare (placeOf (.finite .positive m e first)) (placeOf (.finite .positive n f second)) =
              (compare e f).then (compare (m : ℤ) n) := rfl
          rw [parts, compare_casts]
          rfl
      | negative => rfl
  | negative =>
      cases t with
      | positive => rfl
      | negative =>
          have parts : compare (placeOf (.finite .negative m e first)) (placeOf (.finite .negative n f second)) =
              (compare (-e) (-f)).then (compare (-m : ℤ) (-n)) := rfl
          rw [parts, compare_opposites, compare_opposites, compare_casts, ← Ordering.swap_then]
          rfl

theorem compare_places (a b : UnpackedFloat) (first : a ≠ .notANumber) (second : b ≠ .notANumber) :
    a.compare b = some (compare (placeOf a) (placeOf b)) := by
  cases a with
  | notANumber => exact absurd rfl first
  | infinity s =>
      cases b with
      | notANumber => exact absurd rfl second
      | infinity t => cases s <;> cases t <;> rfl
      | zero t => cases s <;> rfl
      | finite t m e _ => cases s <;> cases t <;> rfl
  | zero s =>
      cases b with
      | notANumber => exact absurd rfl second
      | infinity t => cases t <;> rfl
      | zero t => rfl
      | finite t m e _ => cases t <;> rfl
  | finite s m e _ =>
      cases b with
      | notANumber => exact absurd rfl second
      | infinity t => cases s <;> cases t <;> rfl
      | zero t => cases s <;> rfl
      | finite t n f _ => exact compare_finite s t m n e f _ _

theorem compare_nowhere (a b : UnpackedFloat) (nowhere : a = .notANumber ∨ b = .notANumber) : a.compare b = none := by
  rcases nowhere with rfl | rfl
  · rfl
  · cases a with
    | infinity s => cases s <;> rfl
    | notANumber => rfl
    | zero s => rfl
    | finite s m e _ => rfl

def place (x : Float) : ℤ ×ₗ ℤ ×ₗ ℤ := placeOf x.toModel.unpack

def IsNumber (x : Float) : Prop := x.toModel.unpack ≠ .notANumber

theorem lt_places (x y : Float) : x < y ↔ IsNumber x ∧ IsNumber y ∧ place x < place y := by
  have meaning : x < y ↔ (x.toModel.unpack.compare y.toModel.unpack == some .lt) = true := decide_eq_true_iff
  rw [meaning, beq_iff_eq]
  by_cases numbers : IsNumber x ∧ IsNumber y
  · rw [compare_places _ _ numbers.1 numbers.2, Option.some_inj, compare_lt_iff_lt]
    exact ⟨fun less => ⟨numbers.1, numbers.2, less⟩, fun less => less.2.2⟩
  · have nowhere : x.toModel.unpack = .notANumber ∨ y.toModel.unpack = .notANumber := by
      by_contra somewhere
      exact numbers (not_or.mp somewhere)
    rw [compare_nowhere _ _ nowhere]
    exact ⟨fun less => (Option.some_ne_none _ less.symm).elim, fun less => absurd ⟨less.1, less.2.1⟩ numbers⟩

theorem le_places (x y : Float) : x ≤ y ↔ IsNumber x ∧ IsNumber y ∧ place x ≤ place y := by
  have meaning : x ≤ y ↔ (x.toModel.unpack.compare y.toModel.unpack).any (·.isLE) = true := decide_eq_true_iff
  rw [meaning]
  by_cases numbers : IsNumber x ∧ IsNumber y
  · rw [compare_places _ _ numbers.1 numbers.2, Option.any_some]
    have below : (compare (place x) (place y)).isLE = true ↔ place x ≤ place y :=
      Ordering.isLE_iff_ne_gt.trans compare_le_iff_le
    exact below.trans ⟨fun least => ⟨numbers.1, numbers.2, least⟩, fun least => least.2.2⟩
  · have nowhere : x.toModel.unpack = .notANumber ∨ y.toModel.unpack = .notANumber := by
      by_contra somewhere
      exact numbers (not_or.mp somewhere)
    rw [compare_nowhere _ _ nowhere]
    exact ⟨fun least => (Bool.false_ne_true least).elim, fun least => absurd ⟨least.1, least.2.1⟩ numbers⟩

-- The sign stands in a bit of its own.
theorem unpack_other_sign (s t : Sign) (exponent : BitVec Format.binary64.exponentBits)
    (mantissa : BitVec Format.binary64.mantissaBitsWithoutImplicit) (m : Nat) (e : Int) (positive : 0 < m)
    (found : UnpackedFloat.unpack Format.binary64 (packComponents _ s exponent mantissa) = .finite s m e positive) :
    UnpackedFloat.unpack Format.binary64 (packComponents _ t exponent mantissa) = .finite t m e positive := by
  simp only [UnpackedFloat.unpack, unpackExponent_packComponents, unpackMantissa_packComponents, unpackSign_packComponents,
    Sign.ofBitVec_toBitVec] at found ⊢
  split_ifs at found ⊢ <;> simp_all

theorem unpack_neg (x : Float.Model) : (-x).unpack = x.unpack.neg := by
  have whole : UnpackedFloat.unpack Format.binary64 (UnpackedFloat.pack Format.binary64 x.unpack) = x.unpack :=
    congrArg (UnpackedFloat.unpack Format.binary64) (pack_unpack_of_valid x.valid)
  change UnpackedFloat.unpack Format.binary64 (UnpackedFloat.pack Format.binary64 x.unpack.neg) = x.unpack.neg
  cases same : x.unpack with
  | notANumber => exact unpack_packedNaN
  | infinity s => cases s <;> rfl
  | zero s => cases s <;> rfl
  | finite s m e positive =>
      rw [same] at whole
      simp only [UnpackedFloat.pack] at whole
      simp only [UnpackedFloat.neg, UnpackedFloat.pack]
      split_ifs at whole ⊢
      · exact unpack_other_sign s (-s) _ _ m e positive whole
      · exact unpack_other_sign s (-s) _ _ m e positive whole
      · exact unpack_other_sign s (-s) _ _ m e positive whole

-- What lies after the origin has the positive sign.
theorem after_origin (u : UnpackedFloat) (after : origin < placeOf u) :
    u = .infinity .positive ∨ ∃ m e positive, u = .finite .positive m e positive := by
  cases u with
  | notANumber => exact absurd after (lt_irrefl origin)
  | infinity s =>
      cases s with
      | negative => exact absurd after (by decide)
      | positive => exact .inl rfl
  | zero s => exact absurd after (lt_irrefl origin)
  | finite s m e positive =>
      cases s with
      | negative => exact absurd after (by simp [origin, placeOf, Prod.Lex.toLex_lt_toLex])
      | positive => exact .inr ⟨m, e, positive, rfl⟩

theorem place_neg (x : Float) (after : origin < place x) : place (-x) < origin := by
  have opposite : place (-x) = placeOf x.toModel.unpack.neg := congrArg placeOf (unpack_neg x.toModel)
  rw [opposite]
  rcases after_origin _ after with same | ⟨m, e, positive, same⟩
  · rw [same]
    decide
  · rw [same]
    simp [origin, placeOf, UnpackedFloat.neg, Prod.Lex.toLex_lt_toLex]

theorem place_zero : place (0 : Float) = origin := by
  rfl

-- Only the infinite lies beyond all that is finite.
theorem finite_before (x y : Float) (near : x.isFinite = true) (far : y.isFinite = false) (number : IsNumber y)
    (after : origin < place y) : x < y := by
  have last : y.toModel.unpack = .infinity .positive := by
    rcases after_origin _ after with same | ⟨m, e, positive, same⟩
    · exact same
    · have finite : y.isFinite = true := congrArg UnpackedFloat.isFinite same
      cases far.symm.trans finite
  have before : IsNumber x ∧ place x < place y := by
    rw [IsNumber, place, place, last]
    have within : x.toModel.unpack.isFinite = true := near
    cases same : x.toModel.unpack with
    | notANumber => rw [same] at within; cases within
    | infinity s => rw [same] at within; cases within
    | zero s => exact ⟨UnpackedFloat.noConfusion, (by decide : origin < placeOf (.infinity .positive))⟩
    | finite s m e positive => cases s <;> simp [placeOf, Prod.Lex.toLex_lt_toLex]
  exact (lt_places x y).mpr ⟨before.1, number, before.2⟩

theorem number_le_self (x : Float) (number : IsNumber x) : x ≤ x := (le_places x x).mpr ⟨number, number, le_rfl⟩

theorem number_le_trans (x y z : Float) (first : x ≤ y) (second : y ≤ z) : x ≤ z := by
  obtain ⟨left, _, lower⟩ := (le_places x y).mp first
  obtain ⟨_, right, upper⟩ := (le_places y z).mp second
  exact (le_places x z).mpr ⟨left, right, lower.trans upper⟩

theorem nan_not_number (x : Float) : x.isNaN = true ↔ ¬ IsNumber x := by
  change x.toModel.unpack.isNaN = true ↔ ¬ x.toModel.unpack ≠ .notANumber
  cases x.toModel.unpack <;> simp [UnpackedFloat.isNaN]

-- The larger of two doubles takes no notice of what is not a number.
theorem larger_bounds (x y : Float) :
    (IsNumber x → x ≤ Scalar.max x y) ∧ (IsNumber y → y ≤ Scalar.max x y) ∧
      (Scalar.max x y = x ∨ Scalar.max x y = y) := by
  have meaning : Scalar.max x y = if x.isNaN then y else if y.isNaN then x else if x < y then y else x := rfl
  rw [meaning]
  by_cases first : IsNumber x
  · rw [if_neg fun nan => (nan_not_number x).mp nan first]
    by_cases second : IsNumber y
    · rw [if_neg fun nan => (nan_not_number y).mp nan second]
      by_cases less : x < y
      · rw [if_pos less]
        exact ⟨fun _ => (le_places x y).mpr ⟨first, second, ((lt_places x y).mp less).2.2.le⟩, number_le_self y, .inr rfl⟩
      · rw [if_neg less]
        have after : place y ≤ place x := not_lt.mp fun before => less ((lt_places x y).mpr ⟨first, second, before⟩)
        exact ⟨number_le_self x, fun _ => (le_places y x).mpr ⟨second, first, after⟩, .inl rfl⟩
    · rw [if_pos ((nan_not_number y).mpr second)]
      exact ⟨number_le_self x, fun number => absurd number second, .inl rfl⟩
  · rw [if_pos ((nan_not_number x).mpr first)]
    exact ⟨fun number => absurd number first, number_le_self y, .inr rfl⟩

end LandmarkMap.Double
