import LandmarkMap.Proofs.Geometry.Poses
import LandmarkMap.Geometry.Bearing
import LandmarkMap.Proofs.Outcome

set_option autoImplicit false

namespace LandmarkMap

theorem norm_squared (v : Vec3 ℝ) : v.norm * v.norm = v.normSq := by
  have nonneg : 0 ≤ v.normSq := add_nonneg (add_nonneg (mul_self_nonneg v.x) (mul_self_nonneg v.y)) (mul_self_nonneg v.z)
  exact Real.mul_self_sqrt nonneg

theorem space_norm_positive (v : Vec3 ℝ) (some : v ≠ Vec3.zero) : 0 < v.norm := by
  have plane := add_nonneg (mul_self_nonneg v.x) (mul_self_nonneg v.y)
  have nonneg : 0 ≤ v.normSq := add_nonneg plane (mul_self_nonneg v.z)
  refine Real.sqrt_pos.mpr (lt_of_le_of_ne nonneg fun none => some ?_)
  obtain ⟨flat, z⟩ := (add_eq_zero_iff_of_nonneg plane (mul_self_nonneg v.z)).mp none.symm
  obtain ⟨x, y⟩ := (add_eq_zero_iff_of_nonneg (mul_self_nonneg v.x) (mul_self_nonneg v.y)).mp flat
  apply space_ext
  funext i
  fin_cases i
  · exact mul_self_eq_zero.mp x
  · exact mul_self_eq_zero.mp y
  · exact mul_self_eq_zero.mp z

theorem distance_positive (p anchor : Vec3 ℝ) (apart : p ≠ anchor) : 0 < (p - anchor).norm := by
  apply space_norm_positive
  intro none
  apply apart
  apply space_ext
  have difference := congrArg Vec3.get none
  rwa [space_get_sub, space_get_zero, sub_eq_zero] at difference

theorem unit_divide (v : Vec3 ℝ) (some : 0 < v.norm) : (v.divide v.norm).normSq = 1 := by
  have nonzero := some.ne'
  have whole : (v.divide v.norm).normSq = v.normSq / (v.norm * v.norm) := by
    simp only [Vec3.normSq, Vec3.dot, Vec3.divide]
    field_simp
  rw [whole, ← norm_squared, div_self (mul_ne_zero nonzero nonzero)]

-- Away from the cap, the half-way rotation is defined and takes the third axis to the direction.
theorem half_way_direction (u : Vec3 ℝ) (unit : u.normSq = 1) (away : 0 < 1 + u.z) :
    (⟨-u.y, u.x, 0, 1 + u.z⟩ : Quaternion ℝ).normalize.IsUnit ∧
      Bearing.directionOf (⟨-u.y, u.x, 0, 1 + u.z⟩ : Quaternion ℝ).normalize = u := by
  rw [Vec3.normSq, Vec3.dot] at unit
  have length : (⟨-u.y, u.x, 0, 1 + u.z⟩ : Quaternion ℝ).norm * (⟨-u.y, u.x, 0, 1 + u.z⟩ : Quaternion ℝ).norm =
      2 * (1 + u.z) := by
    have square : (⟨-u.y, u.x, 0, 1 + u.z⟩ : Quaternion ℝ).dot ⟨-u.y, u.x, 0, 1 + u.z⟩ = 2 * (1 + u.z) := by
      rw [quaternion_dot]
      linear_combination unit
    rw [Quaternion.norm, square]
    exact Real.mul_self_sqrt (by linarith)
  rw [unit_dot, quaternion_dot]
  simp only [Quaternion.normalize, Bearing.directionOf]
  generalize (⟨-u.y, u.x, 0, 1 + u.z⟩ : Quaternion ℝ).norm = n at length
  have nonzero : n ≠ 0 := by
    rintro rfl
    linarith
  have square : n ^ 2 = 2 * (1 + u.z) := by
    rw [← length]
    ring
  refine ⟨?_, ?_⟩
  · field_simp
    rw [square]
    linear_combination unit
  · apply space_ext
    funext i
    fin_cases i
    · simp only [Vec3.get]
      field_simp
      rw [square]
      norm_num
      ring
    · simp only [Vec3.get]
      field_simp
      rw [square]
      norm_num
      ring
    · simp only [Vec3.get]
      field_simp
      rw [square]
      linear_combination -unit

section Anchors

variable {α : Type} [Scalar α] (p anchor : Vec3 α)

-- What an anchor must be to a point: away from it, and at a distance that is a number.
def Vec3.ApartFrom : Prop := 0 < (p - anchor).norm ∧ Scalar.isFinite (p - anchor).norm = true

instance : Decidable (p.ApartFrom anchor) := by
  unfold Vec3.ApartFrom
  infer_instance

theorem anchored (apart : p.ApartFrom anchor) :
    ∃ bearing, Bearing.ofDirection? (p - anchor) = .ok bearing ∧
      InverseDepth.ofPoint? p anchor = .ok ⟨bearing, 1 / (p - anchor).norm⟩ := by
  obtain ⟨positive, finite⟩ := apart
  have allowed : ¬ (¬ (0 < (p - anchor).norm) ∨ ¬ Scalar.isFinite (p - anchor).norm = true) := by
    rw [not_or, not_not, not_not]
    exact ⟨positive, finite⟩
  have directed : ∃ bearing, Bearing.ofDirection? (p - anchor) = .ok bearing := by
    rw [Bearing.ofDirection?, if_neg allowed]
    exact ⟨_, rfl⟩
  obtain ⟨bearing, directed⟩ := directed
  refine ⟨bearing, directed, ?_⟩
  rw [InverseDepth.ofPoint?, if_neg allowed, directed]
  rfl

theorem not_anchored (close : ¬ p.ApartFrom anchor) : InverseDepth.ofPoint? p anchor = .error .landmarkAtAnchor := by
  have refused : ¬ (0 < (p - anchor).norm) ∨ ¬ Scalar.isFinite (p - anchor).norm = true := by
    rwa [Vec3.ApartFrom, not_and_or] at close
  rw [InverseDepth.ofPoint?, if_pos refused]
  rfl

end Anchors

-- A bearing with its inverse depth leads from an anchor back to a point.
structure InverseDepth.Reaches (seen : InverseDepth ℝ) (anchor p : Vec3 ℝ) : Prop where
  unit : seen.bearing.rotation.IsUnit
  deep : 0 < seen.inverseDepth
  returns : anchor + (Bearing.directionOf seen.bearing.rotation).divide seen.inverseDepth = p

-- Off the cap nothing is lost between a point and its bearing with its inverse depth.
theorem anchored_returns (p anchor : Vec3 ℝ) (seen : InverseDepth ℝ) (found : InverseDepth.ofPoint? p anchor = .ok seen)
    (away : 1e-10 ≤ 1 + ((p - anchor).divide (p - anchor).norm).z) : seen.Reaches anchor p := by
  by_cases apart : p.ApartFrom anchor
  · obtain ⟨bearing, directed, same⟩ := anchored p anchor apart
    cases same.symm.trans found
    have positive := apart.1
    set offset := p - anchor with far
    have chosen : bearing.rotation =
        (⟨-(offset.divide offset.norm).y, (offset.divide offset.norm).x, 0, 1 + (offset.divide offset.norm).z⟩ :
          Quaternion ℝ).normalize := by
      rw [Bearing.ofDirection?, if_neg (by simpa using positive)] at directed
      cases directed
      exact if_neg (not_lt.mpr away)
    obtain ⟨unit, direction⟩ := half_way_direction (offset.divide offset.norm) (unit_divide offset positive)
      (lt_of_lt_of_le (by norm_num) away)
    rw [← chosen] at unit direction
    refine ⟨unit, one_div_pos.mpr positive, ?_⟩
    rw [direction]
    apply space_ext
    rw [space_get_add, space_get_divide, space_get_divide, smul_smul, one_div, inv_inv, mul_inv_cancel₀ positive.ne',
      one_smul, far, space_get_sub, add_sub_cancel]
  · cases (not_anchored p anchor apart).symm.trans found

end LandmarkMap
