import LandmarkMap.Proofs.Geometry.LargestEntry
import LandmarkMap.Solver.PosePrior

set_option autoImplicit false

namespace LandmarkMap

open Double

section Scales

variable {m n : Nat} (a : Mat m n Float)

-- What asymmetries are measured against: the largest absolute value among the entries that are numbers, but at
-- least one.
structure Mat.IsScale (top : Float) : Prop where
  one : 1 ≤ top
  bounds : ∀ i j, IsNumber (a i j) → (a i j).abs ≤ top
  reached : top = 1 ∨ ∃ i j, top = (a i j).abs

theorem amax_scale {larger : Float → Float → Float} (choice : TakesLarger larger) (i : Fin m) (j : Fin n) :
    a.IsScale (Scalar.max (a.amax larger) 1) := by
  obtain ⟨left, right, either⟩ := larger_bounds (a.amax larger) 1
  refine ⟨right ((number_shape 1).mpr (by decide +kernel)), fun k l number => ?_, ?_⟩
  · have below := amax_bounds choice a k l number
    exact number_le_trans _ _ _ below (left ((le_places _ _).mp below).2.1)
  · rcases either with top | least
    · obtain ⟨k, l, same⟩ := amax_reached choice a i j
      exact .inr ⟨k, l, top.trans same⟩
    · exact .inl least

end Scales

-- What the guard asks of a covariance.
def Mat.AlmostSymmetric (larger : Float → Float → Float) (c : Mat 6 6 Float) : Prop :=
  (c - c.transpose).amax larger ≤ 1e-9 * Scalar.max (c.amax larger) 1

instance (larger : Float → Float → Float) (c : Mat 6 6 Float) : Decidable (c.AlmostSymmetric larger) :=
  Scalar.decidableLE _ _

section Covariances

variable {larger : Float → Float → Float} (c : Mat 6 6 Float)

-- Differences that are not numbers do not count.
theorem symmetry_checked (choice : TakesLarger larger) (guard : c.AlmostSymmetric larger) (i j : Fin 6) (first : (c i j).isFinite = true)
    (second : (c j i).isFinite = true) : (c i j - c j i).abs ≤ 1e-9 * Scalar.max (c.amax larger) 1 := by
  have entry : (c - c.transpose) i j = c i j - c j i := by
    change (Mat.of _).get i j = _
    rw [Mat.get_of, Mat.transpose, Mat.get_of]
  have below := amax_bounds choice (c - c.transpose) i j
  rw [entry] at below
  exact number_le_trans _ _ _ (below (finite_difference _ _ first second)) guard

theorem information_checks (root : Mat 6 6 Float) (found : PosePrior.sqrtInformationOf? larger c = some root) :
    c.AlmostSymmetric larger ∧ ∀ i j : Fin 6, j ≤ i → (c i j).isFinite = true := by
  rw [PosePrior.sqrtInformationOf?] at found
  split_ifs at found with guard
  refine ⟨guard, ?_⟩
  cases factored : c.cholesky? with
  | none =>
      rw [factored] at found
      cases found
  | some l =>
      rw [factored] at found
      obtain ⟨again, refactored, _⟩ := Option.map_eq_some_iff.mp found
      exact factored_twice_finite c l _ again factored refactored

-- Beyond the guard only the lower triangle is read.
theorem information_same_below (d : Mat 6 6 Float) (same : c.SameBelow d) (first : c.AlmostSymmetric larger)
    (second : d.AlmostSymmetric larger) :
    PosePrior.sqrtInformationOf? larger c = PosePrior.sqrtInformationOf? larger d := by
  rw [PosePrior.sqrtInformationOf?, PosePrior.sqrtInformationOf?, factor_same_below c d same]
  exact (if_pos first).trans (if_pos second).symm

variable (rotation : Quaternion Float) (position : Vec3 Float)

theorem prior_ok (prior : PosePrior Float) :
    PosePrior.ofCovariance? larger rotation position c = .ok prior ↔
      ∃ root, PosePrior.sqrtInformationOf? larger c = some root ∧ ⟨rotation, position, root⟩ = prior := by
  rw [PosePrior.ofCovariance?]
  cases PosePrior.sqrtInformationOf? larger c with
  | none => simp
  | some root => simp

-- What a prior has been checked for. Nothing that is not finite is let through on the diagonal or below it.
theorem covariance_entries_checked (choice : TakesLarger larger) :
    (PosePrior.ofCovariance? larger rotation position c = .error .invalidCovariance ∨
      ∃ prior, PosePrior.ofCovariance? larger rotation position c = .ok prior) ∧
    ∀ prior, PosePrior.ofCovariance? larger rotation position c = .ok prior →
      (∀ i j, j ≤ i → (c i j).isFinite = true) ∧
      (∃ top, c.IsScale top ∧
        ∀ i j, (c i j).isFinite = true → (c j i).isFinite = true → (c i j - c j i).abs ≤ 1e-9 * top) ∧
      ((∀ i j, i < j → (c i j).isFinite = true) →
        (∀ i j, (c i j).isFinite = true) ∧ ∃ top, c.IsScale top ∧ ∀ i j, (c i j - c j i).abs ≤ 1e-9 * top) ∧
      ∀ d other, c.SameBelow d → PosePrior.ofCovariance? larger rotation position d = .ok other → other = prior := by
  constructor
  · rw [PosePrior.ofCovariance?]
    cases PosePrior.sqrtInformationOf? larger c with
    | none => exact .inl rfl
    | some root => exact .inr ⟨_, rfl⟩
  · intro prior accepted
    obtain ⟨root, found, rfl⟩ := (prior_ok c rotation position prior).mp accepted
    obtain ⟨guard, below⟩ := information_checks c root found
    have scale := amax_scale c choice 0 0
    have symmetric := symmetry_checked c choice guard
    refine ⟨below, ⟨_, scale, symmetric⟩, fun above => ?_, fun d other same granted => ?_⟩
    · have all : ∀ i j, (c i j).isFinite = true := fun i j => (lt_or_ge i j).elim (above i j) (below i j)
      exact ⟨all, _, scale, fun i j => symmetric i j (all i j) (all j i)⟩
    · obtain ⟨root', there, rfl⟩ := (prior_ok d rotation position other).mp granted
      rw [information_same_below c d same guard (information_checks d root' there).1, there] at found
      rw [Option.some.inj found]

end Covariances

theorem unit_information : ∃ root, PosePrior.sqrtInformationOf? Scalar.max (Mat.identity : Mat 6 6 Float) = some root :=
  Option.isSome_iff_exists.mp (by decide +kernel)

theorem unit_covariance_checked :
    ∃ prior, PosePrior.ofCovariance? Scalar.max Quaternion.identity Vec3.zero (Mat.identity : Mat 6 6 Float) = .ok prior ∧
      (∀ i j, ((Mat.identity : Mat 6 6 Float) i j).isFinite = true) ∧
      ∃ top, (Mat.identity : Mat 6 6 Float).IsScale top := by
  obtain ⟨root, found⟩ := unit_information
  have accepted := (prior_ok _ Quaternion.identity Vec3.zero _).mpr ⟨root, found, rfl⟩
  obtain ⟨_, checked⟩ := covariance_entries_checked (Mat.identity : Mat 6 6 Float) Quaternion.identity Vec3.zero
    double_takes_larger
  obtain ⟨_, _, whole, _⟩ := checked _ accepted
  obtain ⟨all, top, scale, _⟩ := whole (by decide +kernel)
  exact ⟨_, accepted, all, top, scale⟩

-- The identity but for one entry above the diagonal.
def holedCovariance (x : Float) : Mat 6 6 Float := Mat.of fun i j => if i = 0 ∧ j = 1 then x else if i = j then 1 else 0

theorem holed_same_below (x : Float) : (holedCovariance x).SameBelow Mat.identity := by
  intro i j under
  have off : ¬ (i = 0 ∧ j = 1) := by
    rintro ⟨rfl, rfl⟩
    exact absurd under (by decide)
  rw [holedCovariance, Mat.identity, Mat.get_of, Mat.get_of, if_neg off]
  rfl

theorem holed_accepted (x : Float) (guard : (holedCovariance x).AlmostSymmetric Scalar.max) :
    ∃ prior, PosePrior.ofCovariance? Scalar.max Quaternion.identity Vec3.zero (holedCovariance x) = .ok prior := by
  obtain ⟨root, found⟩ := unit_information
  rw [← information_same_below _ _ (holed_same_below x) guard (by decide +kernel)] at found
  exact ⟨_, (prior_ok _ _ _ _).mpr ⟨root, found, rfl⟩⟩

-- There a value that is not a number passes the guard, and so does an infinite one.
theorem holed_covariance_accepted :
    (holedCovariance (0.0 / 0.0) 0 1).isFinite = false ∧ (holedCovariance (1.0 / 0.0) 0 1).isFinite = false ∧
      (∃ prior, PosePrior.ofCovariance? Scalar.max Quaternion.identity Vec3.zero (holedCovariance (0.0 / 0.0)) = .ok prior) ∧
      ∃ prior, PosePrior.ofCovariance? Scalar.max Quaternion.identity Vec3.zero (holedCovariance (1.0 / 0.0)) = .ok prior :=
  ⟨by decide +kernel, by decide +kernel, holed_accepted _ (by decide +kernel), holed_accepted _ (by decide +kernel)⟩

end LandmarkMap
