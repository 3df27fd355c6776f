import LandmarkMap.Proofs.Geometry.InverseDepths
import LandmarkMap.Proofs.Quality.Spread

set_option autoImplicit false

namespace LandmarkMap

open Matrix

theorem cross_back (v w : Vec3 ℝ) : v.cross w = -w.cross v := by
  rw [neg_coordinates]
  simp only [Vec3.cross, Vec3.mk.injEq]
  exact ⟨by ring, by ring, by ring⟩

theorem skew_cross (v w : Vec3 ℝ) : v.skew.toMatrix *ᵥ w.get = (v.cross w).get := by
  rw [skew_matrix]
  funext i
  fin_cases i <;> simp [Vec3.cross, Vec3.get, mulVec, dotProduct, Fin.sum_univ_three] <;> ring

-- A rotation about an axis that is at a right angle to the vector that it turns.
theorem exp_parts (v : Vec3 ℝ) :
    Quaternion.exp v = Quaternion.ofParts (Real.cos (v.norm / 2)) (v.scale (Real.sin (v.norm / 2) / v.norm)) := by
  have half : Real.sqrt (v.divide 2).normSq = v.norm / 2 := by
    have scaled : v.divide 2 = v.scale (1 / 2) := by
      apply space_ext
      rw [space_get_divide, space_get_scale, one_div]
    have length := scale_norm v (1 / 2) one_half_pos.le
    rw [← scaled] at length
    exact length.trans (by ring)
  rw [Quaternion.exp]
  simp only [real_two, real_epsilon, mul_zero, real_sqrt, real_cos, real_sin, half]
  by_cases still : (v.divide 2).normSq ≤ 0
  · rw [if_pos still]
    have none : v.norm = 0 := by
      rw [Real.sqrt_eq_zero_of_nonpos still] at half
      linarith
    rw [none]
    simp [Quaternion.identity, Quaternion.ofParts, Vec3.scale]
  · rw [if_neg still]
    congr 1
    simp only [Vec3.scale, Vec3.divide, Vec3.mk.injEq]
    exact ⟨by ring, by ring, by ring⟩

-- A rotation about an axis that is at a right angle to the vector that it turns.
theorem exp_rotate (v u : Vec3 ℝ) (across : v.dot u = 0) :
    (Quaternion.exp v).rotate u = u.scale (Real.cos v.norm) + (v.cross u).scale (Real.sin v.norm / v.norm) := by
  have whole : v.norm = 2 * (v.norm / 2) := by ring
  have sine : Real.sin v.norm / v.norm = 2 * (Real.sin (v.norm / 2) / v.norm) * Real.cos (v.norm / 2) := by
    have double := Real.sin_two_mul (v.norm / 2)
    rw [← whole] at double
    rw [double]
    ring
  have part : Real.sin (v.norm / 2) / v.norm * v.norm = Real.sin (v.norm / 2) := by
    by_cases still : v.norm = 0
    · rw [still, zero_div, Real.sin_zero, zero_div, zero_mul]
    · exact div_mul_cancel₀ _ still
  have cosine : Real.cos v.norm = 1 - 2 * (Real.sin (v.norm / 2) / v.norm) ^ 2 * v.dot v := by
    have length : v.dot v = v.norm * v.norm := (norm_squared v).symm
    have double := Real.cos_two_mul (v.norm / 2)
    rw [← whole, Real.cos_sq', ← part] at double
    rw [double, length]
    ring
  rw [exp_parts, sine, cosine]
  generalize Real.sin (v.norm / 2) / v.norm = s
  generalize Real.cos (v.norm / 2) = c
  rw [Vec3.dot] at across
  rw [Quaternion.rotate, add_coordinates, add_coordinates, add_coordinates, real_two]
  simp only [Quaternion.ofParts, Quaternion.imag, Vec3.scale, Vec3.cross, Vec3.dot, Vec3.mk.injEq]
  refine ⟨?_, ?_, ?_⟩
  · linear_combination 2 * s ^ 2 * v.x * across
  · linear_combination 2 * s ^ 2 * v.y * across
  · linear_combination 2 * s ^ 2 * v.z * across

namespace Quaternion

noncomputable def column (q : Quaternion ℝ) (j : Fin 3) : Vec3 ℝ := Vec3.of fun i => q.toMat.get i j

theorem column_product (q : Quaternion ℝ) (j : Fin 3) :
    (q.column j).cross (q.column (j + 1)) = (q.column (j + 2)).scale (q.dot q) := by
  simp only [column, ← matrix_entry, rotation_matrix, quaternion_dot]
  fin_cases j <;> simp [Vec3.cross, Vec3.scale, Vec3.of] <;> exact ⟨by ring, by ring, by ring⟩

theorem column_cross (q : Quaternion ℝ) (unit : q.IsUnit) (j : Fin 3) :
    (q.column j).cross (q.column (j + 1)) = q.column (j + 2) := by
  rw [column_product, (unit_dot q).mp unit]
  simp [Vec3.scale]

end Quaternion

namespace Bearing

noncomputable def axis (b : Bearing ℝ) (j : Fin 2) : Vec3 ℝ := Vec3.of fun i => b.tangentBasis.get i j

-- The plane spanned by the basis as a chart of the sphere around the direction.
structure Chart (b : Bearing ℝ) : Prop where
  orthonormal : b.tangentBasis.toMatrixᵀ * b.tangentBasis.toMatrix = 1
  orthogonal : b.tangentBasis.toMatrixᵀ *ᵥ b.direction.get = 0
  oriented : (b.axis 0).cross (b.axis 1) = b.direction
  polynomial : b.direction = directionOf b.rotation
  moves : ∀ δ, (b.plus δ).direction =
    b.direction.scale (Real.cos δ.norm) + ((b.tangent δ).cross b.direction).scale (Real.sin δ.norm / δ.norm)
  still : (b.plus Vec2.zero).direction = b.direction
  turns : ∀ δ : Vec2 ℝ, δ.norm ≤ Real.pi →
    InnerProductGeometry.angle b.direction.point (b.plus δ).direction.point = δ.norm
  derivative : (directionJacobian b.rotation).toMatrix * b.plusJacobian.toMatrix =
    Matrix.of fun i j => ![(-b.axis 1).get i, (b.axis 0).get i] j

theorem direction_derivative (q : Quaternion ℝ) :
    (directionJacobian q).toMatrix * q.plusJacobian.toMatrix = -(directionOf q).skew.toMatrix := by
  rw [plus_jacobian_matrix, skew_matrix]
  ext i j
  fin_cases i <;> fin_cases j <;>
    simp [Matrix.mul_apply, Fin.sum_univ_four, directionJacobian, directionOf, Mat.get] <;> ring

section Basis

variable (b : Bearing ℝ)

theorem basis_entry (i : Fin 3) (j : Fin 2) :
    b.tangentBasis.toMatrix i j = b.rotation.toMat.toMatrix i (j.castLE (by decide)) := by
  rw [tangentBasis, matrix_of]
  rfl

variable (unit : b.rotation.IsUnit)

include unit

theorem third_column : b.direction = b.rotation.column 2 := by
  apply space_ext
  rw [direction, rotate_get _ unit, Quaternion.column, space_get_of]
  funext i
  simp [Vec3.get, mulVec, dotProduct, Fin.sum_univ_three]

theorem basis_orthonormal : b.tangentBasis.toMatrixᵀ * b.tangentBasis.toMatrix = 1 := by
  ext i j
  have entry := congrFun (congrFun (rotation_orthogonal b.rotation unit) (i.castLE (by decide))) (j.castLE (by decide))
  rw [Matrix.mul_apply] at *
  simp only [transpose_apply, basis_entry] at *
  rw [entry]
  simp only [Matrix.one_apply, Fin.castLE_inj]

theorem basis_orthogonal : b.tangentBasis.toMatrixᵀ *ᵥ b.direction.get = 0 := by
  funext j
  have entry := congrFun (congrFun (rotation_orthogonal b.rotation unit) (j.castLE (by decide))) 2
  have apart : (j.castLE (by decide) : Fin 3) ≠ 2 := by
    fin_cases j <;> decide
  rw [Matrix.mul_apply, Matrix.one_apply_ne apart] at entry
  rw [third_column b unit, Quaternion.column, space_get_of, mulVec, dotProduct]
  simp only [transpose_apply, basis_entry]
  exact entry

theorem tangent_across (δ : Vec2 ℝ) : (b.tangent δ).dot b.direction = 0 := by
  rw [space_dot, tangent, act_plane_get, dotProduct_comm, dotProduct_mulVec, ← mulVec_transpose, basis_orthogonal b unit,
    zero_dotProduct]

theorem tangent_norm (δ : Vec2 ℝ) : (b.tangent δ).norm = δ.norm := by
  have square : (b.tangent δ).normSq = δ.normSq := by
    rw [Vec3.normSq, space_dot, tangent, act_plane_get, dotProduct_mulVec, ← mulVec_transpose, mulVec_mulVec,
      basis_orthonormal b unit, one_mulVec]
    simp [dotProduct, Vec2.normSq, Vec2.dot, Vec2.get]
  rw [Vec3.norm, Vec2.norm, square]

theorem plus_direction (δ : Vec2 ℝ) : (b.plus δ).direction =
    b.direction.scale (Real.cos δ.norm) + ((b.tangent δ).cross b.direction).scale (Real.sin δ.norm / δ.norm) := by
  rw [direction, plus, rotate_product _ _ (unit_exp _) unit, ← tangent_norm b unit δ]
  exact exp_rotate _ _ (tangent_across b unit δ)

theorem plus_still : (b.plus Vec2.zero).direction = b.direction := by
  have none : (Vec2.zero : Vec2 ℝ).norm = 0 := by simp [Vec2.norm, Vec2.normSq, Vec2.dot, Vec2.zero]
  rw [plus_direction b unit, none, Real.cos_zero, Real.sin_zero, zero_div]
  apply space_ext
  rw [space_get_add, space_get_scale, space_get_scale, one_smul, zero_smul, add_zero]

theorem plus_angle (δ : Vec2 ℝ) (near : δ.norm ≤ Real.pi) :
    InnerProductGeometry.angle b.direction.point (b.plus δ).direction.point = δ.norm := by
  have start := direction_unit b unit
  have moved := direction_unit (b.plus δ) (unit_product _ _ (unit_exp _) unit)
  have cosine : b.direction.dot (b.plus δ).direction = Real.cos δ.norm := by
    rw [Vec3.normSq] at start
    rw [plus_direction b unit, add_coordinates]
    simp only [Vec3.dot, Vec3.scale, Vec3.cross] at *
    linear_combination Real.cos δ.norm * start
  rw [InnerProductGeometry.angle, inner_point, norm_point, norm_point, cosine, Vec3.norm, Vec3.norm, start, moved,
    real_sqrt, Real.sqrt_one, mul_one, div_one]
  exact Real.arccos_cos (Real.sqrt_nonneg _) near

theorem chart_derivative : (directionJacobian b.rotation).toMatrix * b.plusJacobian.toMatrix =
    Matrix.of fun i j => ![(-b.axis 1).get i, (b.axis 0).get i] j := by
  have first : b.direction.cross (b.axis 0) = b.axis 1 := by
    rw [third_column b unit]
    exact b.rotation.column_cross unit 2
  have second : b.direction.cross (b.axis 1) = -b.axis 0 := by
    rw [cross_back, third_column b unit]
    exact congrArg (-·) (b.rotation.column_cross unit 1)
  rw [plusJacobian, matrix_mul, ← Matrix.mul_assoc, direction_derivative, ← direction_polynomial b unit,
    Matrix.neg_mul]
  ext i j
  have column : (b.direction.skew.toMatrix * b.tangentBasis.toMatrix) i j = (b.direction.cross (b.axis j)).get i := by
    rw [← skew_cross, axis, space_get_of]
    rfl
  rw [Matrix.neg_apply, column]
  fin_cases j
  · simp [first]
  · simp [second]

-- The plane of the basis is a chart of the sphere, with the direction at its centre.
theorem bearing_chart : b.Chart where
  orthonormal := basis_orthonormal b unit
  orthogonal := basis_orthogonal b unit
  oriented := by
    rw [third_column b unit]
    exact b.rotation.column_cross unit 0
  polynomial := direction_polynomial b unit
  moves := plus_direction b unit
  still := plus_still b unit
  turns := plus_angle b unit
  derivative := chart_derivative b unit

end Basis

-- A bearing that leans to the side, moved by one radian.
theorem leaning_chart :
    Chart ⟨⟨0, 3 / 5, 0, 4 / 5⟩⟩ ∧
      InnerProductGeometry.angle (direction ⟨⟨0, 3 / 5, 0, 4 / 5⟩⟩).point
        (plus ⟨⟨0, 3 / 5, 0, 4 / 5⟩⟩ ⟨3 / 5, 4 / 5⟩).direction.point = 1 := by
  have unit : (⟨0, 3 / 5, 0, 4 / 5⟩ : Quaternion ℝ).IsUnit := by
    rw [unit_dot, quaternion_dot]
    norm_num
  have one : (⟨3 / 5, 4 / 5⟩ : Vec2 ℝ).norm = 1 := by
    rw [Vec2.norm, real_sqrt, Real.sqrt_eq_one]
    norm_num [Vec2.normSq, Vec2.dot]
  have chart := bearing_chart ⟨⟨0, 3 / 5, 0, 4 / 5⟩⟩ unit
  have turned := chart.turns ⟨3 / 5, 4 / 5⟩ (one.trans_le (by linarith [Real.two_le_pi]))
  exact ⟨chart, turned.trans one⟩

end Bearing

end LandmarkMap
