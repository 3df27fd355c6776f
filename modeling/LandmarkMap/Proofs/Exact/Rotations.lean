import Mathlib.Analysis.Normed.Algebra.QuaternionExponential
import LandmarkMap.Geometry.Bearing
import LandmarkMap.Proofs.Exact.Matrices

set_option autoImplicit false

section

open Matrix
open scoped Quaternion

namespace LandmarkMap

namespace Quaternion

def get {α : Type} (q : Quaternion α) (i : Fin 4) : α :=
  match i with
  | 0 => q.x
  | 1 => q.y
  | 2 => q.z
  | 3 => q.w

def of {α : Type} (f : Fin 4 → α) : Quaternion α := ⟨f 0, f 1, f 2, f 3⟩

def hamilton (q : Quaternion ℝ) : ℍ[ℝ] := ⟨q.w, q.x, q.y, q.z⟩

def IsUnit (q : Quaternion ℝ) : Prop := q.norm = 1

end Quaternion

theorem quaternion_product {α : Type} [Scalar α] (a b : Quaternion α) :
    a * b =
      { w := a.w * b.w - a.x * b.x - a.y * b.y - a.z * b.z
        x := a.w * b.x + a.x * b.w + a.y * b.z - a.z * b.y
        y := a.w * b.y - a.x * b.z + a.y * b.w + a.z * b.x
        z := a.w * b.z + a.x * b.y - a.y * b.x + a.z * b.w } := rfl

theorem product_hamilton (a b : Quaternion ℝ) : (a * b).hamilton = a.hamilton * b.hamilton := by
  rw [quaternion_product]
  ext
  · rw [Quaternion.re_mul]
    rfl
  · rw [Quaternion.imI_mul]
    rfl
  · rw [Quaternion.imJ_mul]
    rfl
  · rw [Quaternion.imK_mul]
    rfl

theorem quaternion_dot (a b : Quaternion ℝ) :
    a.dot b = a.x * b.x + a.y * b.y + a.z * b.z + a.w * b.w := by
  rw [Quaternion.dot]
  ring

theorem rotation_matrix (q : Quaternion ℝ) :
    q.toMat.toMatrix =
      !![q.w ^ 2 + q.x ^ 2 - q.y ^ 2 - q.z ^ 2, 2 * (q.x * q.y - q.w * q.z), 2 * (q.w * q.y + q.x * q.z);
         2 * (q.w * q.z + q.x * q.y), q.w ^ 2 - q.x ^ 2 + q.y ^ 2 - q.z ^ 2, 2 * (q.y * q.z - q.w * q.x);
         2 * (q.x * q.z - q.w * q.y), 2 * (q.w * q.x + q.y * q.z), q.w ^ 2 - q.x ^ 2 - q.y ^ 2 + q.z ^ 2] := by
  ext i j
  fin_cases i <;> fin_cases j <;> simp [Quaternion.toMat, Mat.get] <;> ring

theorem rotation_product (a b : Quaternion ℝ) : (a * b).toMat = a.toMat * b.toMat := by
  apply matrix_ext
  rw [matrix_mul, rotation_matrix, rotation_matrix, rotation_matrix, quaternion_product]
  ext i j
  fin_cases i <;> fin_cases j <;> simp [Matrix.mul_apply, Fin.sum_univ_three] <;> ring

theorem skew_matrix (v : Vec3 ℝ) :
    v.skew.toMatrix = !![0, -v.z, v.y; v.z, 0, -v.x; -v.y, v.x, 0] := by
  ext i j
  fin_cases i <;> fin_cases j <;> rfl

theorem stack_top {m p n : Nat} (a : Mat m n ℝ) (b : Mat p n ℝ) (i : Fin m) (j : Fin n) :
    (a.stack b).toMatrix (Fin.castAdd p i) j = a.toMatrix i j := by
  simp [Mat.stack, Mat.get]

theorem stack_bottom {m p n : Nat} (a : Mat m n ℝ) (b : Mat p n ℝ) (i : Fin p) (j : Fin n) :
    (a.stack b).toMatrix (Fin.natAdd m i) j = b.toMatrix i j := by
  simp [Mat.stack, Mat.get]

theorem plus_jacobian_matrix (q : Quaternion ℝ) :
    q.plusJacobian.toMatrix =
      (1 / 2 : ℝ) • !![q.w, q.z, -q.y; -q.z, q.w, q.x; q.y, -q.x, q.w; -q.x, -q.y, -q.z] := by
  rw [Quaternion.plusJacobian, matrix_scale, real_half]
  congr 1
  ext i j
  refine Fin.addCases (m := 3) (n := 1) (fun i => ?_) (fun i => ?_) i
  · rw [stack_top, matrix_sub, skew_matrix, matrix_scale, matrix_identity]
    fin_cases i <;> fin_cases j <;> simp [Quaternion.imag]
  · rw [stack_bottom]
    fin_cases i
    fin_cases j <;> rfl


theorem dot_hamilton (q : Quaternion ℝ) : q.dot q = ‖q.hamilton‖ * ‖q.hamilton‖ := by
  rw [← Quaternion.normSq_eq_norm_mul_self, Quaternion.normSq_def', quaternion_dot]
  simp only [Quaternion.hamilton]
  ring

-- The exponential of the algebra takes half of the rotation vector as its imaginary part.
noncomputable def halfTurn (v : Vec3 ℝ) : Quaternion ℝ := Quaternion.ofParts 0 (v.divide 2)

theorem half_turn_norm (v : Vec3 ℝ) : ‖(halfTurn v).hamilton‖ = Real.sqrt (v.divide 2).normSq := by
  have square : ‖(halfTurn v).hamilton‖ * ‖(halfTurn v).hamilton‖ = (v.divide 2).normSq := by
    rw [← dot_hamilton, quaternion_dot]
    simp only [halfTurn, Quaternion.ofParts, Vec3.normSq, Vec3.dot]
    ring
  rw [← square, Real.sqrt_mul_self (norm_nonneg _)]

theorem exp_hamilton (v : Vec3 ℝ) : (Quaternion.exp v).hamilton = NormedSpace.exp (halfTurn v).hamilton := by
  rw [Quaternion.exp_of_re_eq_zero _ rfl, half_turn_norm, Quaternion.exp]
  simp only [real_two, real_epsilon, mul_zero]
  by_cases still : (v.divide 2).normSq ≤ 0
  · have none : Real.sqrt (v.divide 2).normSq = 0 := Real.sqrt_eq_zero_of_nonpos still
    rw [if_pos still, none, Real.cos_zero, Real.sin_zero, zero_div, zero_smul, add_zero]
    rfl
  · rw [if_neg still]
    ext
    · rw [Quaternion.re_add, Quaternion.re_coe, Quaternion.re_smul]
      simp [Quaternion.hamilton, Quaternion.ofParts, halfTurn]
    · rw [Quaternion.imI_add, Quaternion.imI_coe, Quaternion.imI_smul, zero_add]
      exact mul_comm _ _
    · rw [Quaternion.imJ_add, Quaternion.imJ_coe, Quaternion.imJ_smul, zero_add]
      exact mul_comm _ _
    · rw [Quaternion.imK_add, Quaternion.imK_coe, Quaternion.imK_smul, zero_add]
      exact mul_comm _ _


theorem unit_dot (q : Quaternion ℝ) : q.IsUnit ↔ q.dot q = 1 := Real.sqrt_eq_one

theorem dot_product (a b : Quaternion ℝ) : (a * b).dot (a * b) = a.dot a * b.dot b := by
  rw [dot_hamilton, dot_hamilton, dot_hamilton, product_hamilton, norm_mul]
  ring

theorem unit_exp (v : Vec3 ℝ) : (Quaternion.exp v).IsUnit := by
  have imaginary : (halfTurn v).hamilton.re = 0 := rfl
  rw [unit_dot, dot_hamilton, exp_hamilton, Quaternion.norm_exp, imaginary, NormedSpace.exp_zero, norm_one,
    mul_one]

theorem unit_product (a b : Quaternion ℝ) (first : a.IsUnit) (second : b.IsUnit) : (a * b).IsUnit := by
  rw [unit_dot] at *
  rw [dot_product, first, second, mul_one]

theorem unit_identity : (Quaternion.identity : Quaternion ℝ).IsUnit := by
  rw [unit_dot, quaternion_dot]
  simp [Quaternion.identity]

theorem unit_neg (q : Quaternion ℝ) (unit : q.IsUnit) : (-q).IsUnit := by
  rw [unit_dot, quaternion_dot] at *
  change -q.x * -q.x + -q.y * -q.y + -q.z * -q.z + -q.w * -q.w = 1
  linear_combination unit

theorem unit_normalize (q : Quaternion ℝ) (unit : q.IsUnit) : q.normalize = q := by
  have length : q.norm = 1 := unit
  simp [Quaternion.normalize, length]

theorem exp_zero : Quaternion.exp (Vec3.zero : Vec3 ℝ) = Quaternion.identity := by
  simp [Quaternion.exp, Vec3.divide, Vec3.normSq, Vec3.dot, Vec3.zero]

theorem identity_product (q : Quaternion ℝ) : Quaternion.identity * q = q := by
  rw [quaternion_product]
  simp [Quaternion.identity]

theorem conj_rotation (q : Quaternion ℝ) : q.conj.toMat = q.toMat.transpose := by
  apply matrix_ext
  rw [matrix_transpose, rotation_matrix, rotation_matrix]
  ext i j
  fin_cases i <;> fin_cases j <;> simp [Quaternion.conj] <;> ring

theorem hamilton_injective (a b : Quaternion ℝ) (same : a.hamilton = b.hamilton) : a = b := by
  have parts := Quaternion.ext_iff.mp same
  cases a
  cases b
  simp only [Quaternion.mk.injEq]
  exact ⟨parts.2.1, parts.2.2.1, parts.2.2.2, parts.1⟩

theorem product_assoc (a b c : Quaternion ℝ) : a * b * c = a * (b * c) := by
  apply hamilton_injective
  simp only [product_hamilton, mul_assoc]

theorem conj_hamilton (q : Quaternion ℝ) : q.conj.hamilton = star q.hamilton := by
  ext
  · rw [Quaternion.re_star]
    rfl
  · rw [Quaternion.imI_star]
    rfl
  · rw [Quaternion.imJ_star]
    rfl
  · rw [Quaternion.imK_star]
    rfl

theorem half_turn_neg (v : Vec3 ℝ) : halfTurn (-v) = (halfTurn v).conj := by
  simp only [halfTurn, Quaternion.ofParts, Quaternion.conj, Quaternion.mk.injEq]
  exact ⟨neg_div _ _, neg_div _ _, neg_div _ _, trivial⟩

theorem exp_neg (v : Vec3 ℝ) : Quaternion.exp (-v) = (Quaternion.exp v).conj := by
  apply hamilton_injective
  rw [conj_hamilton, exp_hamilton, exp_hamilton, half_turn_neg, conj_hamilton, NormedSpace.star_exp]

-- The columns of the derivative of the left update are orthogonal, and of the same length.
theorem plus_jacobian_gram (q : Quaternion ℝ) :
    q.plusJacobian.toMatrixᵀ * q.plusJacobian.toMatrix = (q.dot q / 4) • 1 := by
  rw [plus_jacobian_matrix, quaternion_dot]
  ext i j
  fin_cases i <;> fin_cases j <;> simp [Matrix.mul_apply, Fin.sum_univ_four] <;> ring

theorem lift_matrix {r : Nat} (j : Mat r 3 ℝ) (q : Quaternion ℝ) :
    (Quaternion.lift j q).toMatrix = (4 : ℝ) • (j.toMatrix * q.plusJacobian.toMatrixᵀ) := by
  rw [Quaternion.lift, matrix_scale, matrix_mul, matrix_transpose, real_four]

theorem lift_plus_jacobian {r : Nat} (j : Mat r 3 ℝ) (q : Quaternion ℝ) :
    (Quaternion.lift j q).toMatrix * q.plusJacobian.toMatrix = q.dot q • j.toMatrix := by
  rw [lift_matrix, smul_mul, Matrix.mul_assoc, plus_jacobian_gram, Matrix.mul_smul, Matrix.mul_one, smul_smul]
  congr 1
  ring

end LandmarkMap

end
