import Mathlib.LinearAlgebra.Matrix.Notation
import Mathlib.LinearAlgebra.Matrix.ConjTranspose
import LandmarkMap.Geometry.Mat
import LandmarkMap.Proofs.Exact.Reals

set_option autoImplicit false

namespace LandmarkMap

open Matrix

section Coordinates

variable {α : Type}

def Vec2.get (v : Vec2 α) (i : Fin 2) : α :=
  match i with
  | 0 => v.x
  | 1 => v.y

@[simp] theorem plane_get_of (f : Fin 2 → α) : (Vec2.of f).get = f := by
  funext i
  fin_cases i <;> rfl

@[simp] theorem plane_of_get (v : Vec2 α) : Vec2.of v.get = v := rfl

@[simp] theorem space_get_of (f : Fin 3 → α) : (Vec3.of f).get = f := by
  funext i
  fin_cases i <;> rfl

@[simp] theorem space_of_get (v : Vec3 α) : Vec3.of v.get = v := rfl

theorem space_ext (v w : Vec3 α) (same : v.get = w.get) : v = w := by
  rw [← space_of_get v, same, space_of_get]

end Coordinates

section Space

variable (v w : Vec3 ℝ) (s : ℝ)

@[simp] theorem space_get_zero : (Vec3.zero : Vec3 ℝ).get = 0 := by
  funext i
  fin_cases i <;> rfl

@[simp] theorem space_get_add : (v + w).get = v.get + w.get := by
  funext i
  fin_cases i <;> rfl

@[simp] theorem space_get_sub : (v - w).get = v.get - w.get := by
  funext i
  fin_cases i <;> rfl

@[simp] theorem space_get_neg : (-v).get = -v.get := by
  funext i
  fin_cases i <;> rfl

@[simp] theorem space_get_scale : (v.scale s).get = s • v.get := by
  funext i
  fin_cases i <;> exact mul_comm _ _

@[simp] theorem space_get_divide : (v.divide s).get = s⁻¹ • v.get := by
  funext i
  fin_cases i <;> exact div_eq_inv_mul _ _

theorem space_dot : v.dot w = v.get ⬝ᵥ w.get := by
  rw [dotProduct, Fin.sum_univ_three]
  rfl

end Space

section Plane

variable (v w : Vec2 ℝ) (s : ℝ)

@[simp] theorem plane_get_sub : (v - w).get = v.get - w.get := by
  funext i
  fin_cases i <;> rfl

@[simp] theorem plane_get_scale : (v.scale s).get = s • v.get := by
  funext i
  fin_cases i <;> exact mul_comm _ _

@[simp] theorem plane_get_divide : (v.divide s).get = s⁻¹ • v.get := by
  funext i
  fin_cases i <;> exact div_eq_inv_mul _ _

end Plane

variable {m n k : Nat}

def Mat.toMatrix (a : Mat m n ℝ) : Matrix (Fin m) (Fin n) ℝ := Matrix.of a.get

@[simp] theorem matrix_entry (a : Mat m n ℝ) (i : Fin m) (j : Fin n) : a.toMatrix i j = a.get i j := rfl

@[simp] theorem matrix_of (f : Fin m → Fin n → ℝ) : (Mat.of f).toMatrix = Matrix.of f := by
  ext i j
  exact Mat.get_of f i j

theorem matrix_ext (a b : Mat m n ℝ) (same : a.toMatrix = b.toMatrix) : a = b := by
  apply Mat.ext_get
  intro i j
  exact congrFun (congrFun same i) j

@[simp] theorem matrix_zero : (Mat.zero : Mat m n ℝ).toMatrix = 0 := matrix_of _

@[simp] theorem matrix_identity : (Mat.identity : Mat n n ℝ).toMatrix = 1 := by
  ext i j
  exact (Mat.get_of _ i j).trans (Matrix.one_apply).symm

@[simp] theorem matrix_add (a b : Mat m n ℝ) : (a + b).toMatrix = a.toMatrix + b.toMatrix := matrix_of _

@[simp] theorem matrix_sub (a b : Mat m n ℝ) : (a - b).toMatrix = a.toMatrix - b.toMatrix := matrix_of _

@[simp] theorem matrix_neg (a : Mat m n ℝ) : (-a).toMatrix = -a.toMatrix := matrix_of _

@[simp] theorem matrix_transpose (a : Mat m n ℝ) : a.transpose.toMatrix = a.toMatrixᵀ := matrix_of _

@[simp] theorem matrix_scale (a : Mat m n ℝ) (s : ℝ) : (a.scale s).toMatrix = s • a.toMatrix := by
  ext i j
  exact (Mat.get_of _ i j).trans (mul_comm _ _)

@[simp] theorem matrix_divide (a : Mat m n ℝ) (s : ℝ) : (a.divide s).toMatrix = s⁻¹ • a.toMatrix := by
  ext i j
  exact (Mat.get_of _ i j).trans (div_eq_inv_mul _ _)

@[simp] theorem matrix_mul (a : Mat m k ℝ) (b : Mat k n ℝ) :
    (a * b).toMatrix = a.toMatrix * b.toMatrix := by
  ext i j
  rw [Matrix.mul_apply]
  exact (Mat.get_of _ i j).trans (sum_fin k _)

theorem matrix_mul_vec (a : Mat m n ℝ) (v : Vector ℝ n) :
    (a.mulVec v).get = a.toMatrix *ᵥ v.get := by
  funext i
  exact (Vector.getElem_ofFn i.isLt).trans (sum_fin n _)

@[simp] theorem act_get (a : Mat 3 3 ℝ) (v : Vec3 ℝ) : (a.act v).get = a.toMatrix *ᵥ v.get := by
  rw [Mat.act, space_get_of]
  funext i
  rw [space_dot]
  exact congrArg (· ⬝ᵥ v.get) (space_get_of _)

@[simp] theorem act_plane_get (a : Mat 3 2 ℝ) (v : Vec2 ℝ) :
    (a.actPlane v).get = a.toMatrix *ᵥ v.get := by
  rw [Mat.actPlane, space_get_of]
  funext i
  rw [mulVec, dotProduct, Fin.sum_univ_two]
  rfl

theorem column_matrix (v : Vec3 ℝ) : v.toColumn.toMatrix = Matrix.of fun i _ => v.get i := by
  ext i k
  fin_cases i <;> fin_cases k <;> rfl

end LandmarkMap
