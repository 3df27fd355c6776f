import Mathlib.Analysis.SpecialFunctions.Exponential
import Mathlib.Analysis.Calculus.Deriv.Comp
import Mathlib.Analysis.Calculus.FDeriv.Pi
import Mathlib.Analysis.Calculus.FDeriv.Star
import Mathlib.Analysis.Calculus.FDeriv.Mul
import Mathlib.LinearAlgebra.Matrix.ToLin
import LandmarkMap.Proofs.Exact.Rotations

set_option autoImplicit false

section

open Matrix Topology
open scoped Quaternion

namespace LandmarkMap

variable {l m n : Nat}

-- The derivative of `f` at `x` is the linear map of the matrix `j`.
def HasJacobian (f : (Fin n → ℝ) → Fin m → ℝ) (j : Matrix (Fin m) (Fin n) ℝ) (x : Fin n → ℝ) : Prop :=
  HasFDerivAt f (Matrix.toLin' j).toContinuousLinearMap x

theorem jacobian_chain (g : (Fin m → ℝ) → Fin l → ℝ) (f : (Fin n → ℝ) → Fin m → ℝ)
    (k : Matrix (Fin l) (Fin m) ℝ) (j : Matrix (Fin m) (Fin n) ℝ) (x : Fin n → ℝ)
    (outer : HasJacobian g k (f x)) (inner : HasJacobian f j x) :
    HasJacobian (fun y => g (f y)) (k * j) x := by
  refine (HasFDerivAt.comp x outer inner).congr_fderiv ?_
  ext v
  simp

theorem jacobian_identity (x : Fin n → ℝ) : HasJacobian (fun y => y) 1 x := by
  refine (hasFDerivAt_id x).congr_fderiv ?_
  ext v
  simp

theorem jacobian_constant (c : Fin m → ℝ) (x : Fin n → ℝ) : HasJacobian (fun _ => c) 0 x := by
  refine (hasFDerivAt_const c x).congr_fderiv ?_
  ext v
  simp

theorem jacobian_linear (j : Matrix (Fin m) (Fin n) ℝ) (x : Fin n → ℝ) : HasJacobian (j *ᵥ ·) j x :=
  (Matrix.toLin' j).toContinuousLinearMap.hasFDerivAt

theorem jacobian_shift (f : (Fin n → ℝ) → Fin m → ℝ) (j : Matrix (Fin m) (Fin n) ℝ) (x : Fin n → ℝ)
    (c : Fin m → ℝ) (known : HasJacobian f j x) : HasJacobian (fun y => f y + c) j x :=
  HasFDerivAt.add_const c known

theorem jacobian_smul (f : (Fin n → ℝ) → Fin m → ℝ) (j : Matrix (Fin m) (Fin n) ℝ) (x : Fin n → ℝ) (s : ℝ)
    (known : HasJacobian f j x) : HasJacobian (fun y => s • f y) (s • j) x := by
  refine (HasFDerivAt.const_smul known s).congr_fderiv ?_
  ext v
  simp

theorem jacobian_near (f g : (Fin n → ℝ) → Fin m → ℝ) (j : Matrix (Fin m) (Fin n) ℝ) (x : Fin n → ℝ)
    (known : HasJacobian f j x) (same : ∀ᶠ y in 𝓝 x, g y = f y) : HasJacobian g j x :=
  HasFDerivAt.congr_of_eventuallyEq known same

theorem jacobian_same (f g : (Fin n → ℝ) → Fin m → ℝ) (j : Matrix (Fin m) (Fin n) ℝ) (x : Fin n → ℝ)
    (known : HasJacobian f j x) (same : ∀ y, g y = f y) : HasJacobian g j x := by
  rwa [funext same]

theorem jacobian_congr (f : (Fin n → ℝ) → Fin m → ℝ) (j k : Matrix (Fin m) (Fin n) ℝ) (x : Fin n → ℝ)
    (known : HasJacobian f j x) (same : j = k) : HasJacobian f k x := same ▸ known

theorem coordinate_derivative (i : Fin n) (x : Fin n → ℝ) :
    HasFDerivAt (fun y : Fin n → ℝ => y i) (ContinuousLinearMap.proj i : (Fin n → ℝ) →L[ℝ] ℝ) x :=
  hasFDerivAt_apply i x

-- Row by row: the derivative of each coordinate has the row of the matrix as its values on the axes.
theorem jacobian_rows (f : (Fin n → ℝ) → Fin m → ℝ) (j : Matrix (Fin m) (Fin n) ℝ) (x : Fin n → ℝ)
    (row : Fin m → (Fin n → ℝ) →L[ℝ] ℝ) (derived : ∀ i, HasFDerivAt (fun y => f y i) (row i) x)
    (entries : ∀ i k, row i (Pi.single k 1) = j i k) : HasJacobian f j x := by
  refine (hasFDerivAt_pi.mpr derived).congr_fderiv ?_
  apply ContinuousLinearMap.coe_injective
  apply LinearMap.pi_ext'
  intro k
  ext i
  simp [entries]

-- A vector scaled by a factor that depends on it.
theorem jacobian_scaled (g : (Fin n → ℝ) → ℝ) (slope : (Fin n → ℝ) →L[ℝ] ℝ) (x : Fin n → ℝ)
    (known : HasFDerivAt g slope x) :
    HasJacobian (fun y => g y • y) (Matrix.of fun i k => (if i = k then g x else 0) + x i * slope (Pi.single k 1)) x := by
  refine jacobian_rows _ _ _ _ (fun i => known.mul (coordinate_derivative i x)) ?_
  intro i k
  by_cases same : i = k
  · subst same
    simp
  · simp [same]

-- A fixed vector scaled by a factor of one variable.
theorem jacobian_curve (g : ℝ → ℝ) (slope : ℝ) (v : Fin n → ℝ) (x : Fin 1 → ℝ)
    (known : HasDerivAt g slope (x 0)) :
    HasJacobian (fun y => g (y 0) • v) (Matrix.of fun i _ => slope * v i) x := by
  have along := known.comp_hasFDerivAt x (coordinate_derivative 0 x)
  refine jacobian_rows _ _ _ _ (fun i => along.mul_const (v i)) ?_
  intro i k
  rw [Subsingleton.elim k 0]
  simp [mul_comm]

theorem jacobian_continuous (f : (Fin n → ℝ) → Fin m → ℝ) (j : Matrix (Fin m) (Fin n) ℝ) (x : Fin n → ℝ)
    (known : HasJacobian f j x) : ContinuousAt f x :=
  HasFDerivAt.continuousAt known

-- The tangent vector of an update as the imaginary part of the exponent.
noncomputable def halfTurnMap : (Fin 3 → ℝ) →ₗ[ℝ] ℍ[ℝ] where
  toFun δ := (halfTurn (Vec3.of δ)).hamilton
  map_add' a b := by
    ext
    · exact (zero_add _).symm
    · exact add_div _ _ _
    · exact add_div _ _ _
    · exact add_div _ _ _
  map_smul' s a := by
    ext
    · exact (mul_zero _).symm
    · exact mul_div_assoc _ _ _
    · exact mul_div_assoc _ _ _
    · exact mul_div_assoc _ _ _

def coordinates : ℍ[ℝ] →ₗ[ℝ] Fin 4 → ℝ where
  toFun h := ![h.imI, h.imJ, h.imK, h.re]
  map_add' a b := by
    ext i
    fin_cases i <;> rfl
  map_smul' s a := by
    ext i
    fin_cases i <;> rfl

theorem hamilton_coordinates (q : Quaternion ℝ) : coordinates q.hamilton = q.get := by
  ext i
  fin_cases i <;> rfl

theorem exp_derivative :
    HasFDerivAt (fun δ : Fin 3 → ℝ => (Quaternion.exp (Vec3.of δ)).hamilton) halfTurnMap.toContinuousLinearMap 0 := by
  have start : halfTurnMap.toContinuousLinearMap 0 = 0 := map_zero _
  have exponential : HasFDerivAt NormedSpace.exp (1 : ℍ[ℝ] →L[ℝ] ℍ[ℝ]) (halfTurnMap.toContinuousLinearMap 0) := by
    rw [start]
    exact hasFDerivAt_exp_zero
  refine ((exponential.comp 0 halfTurnMap.toContinuousLinearMap.hasFDerivAt).congr_fderiv ?_).congr_of_eventuallyEq ?_
  · rfl
  · exact Filter.Eventually.of_forall fun δ => exp_hamilton (Vec3.of δ)

theorem plus_jacobian_act (q : Quaternion ℝ) (v : Fin 3 → ℝ) :
    q.plusJacobian.toMatrix *ᵥ v = (halfTurn (Vec3.of v) * q).get := by
  rw [plus_jacobian_matrix, quaternion_product]
  ext i
  fin_cases i <;>
    simp [halfTurn, Quaternion.ofParts, Vec3.of, Vec3.divide, Quaternion.get, mulVec, dotProduct, Fin.sum_univ_three] <;>
    ring

theorem exp_product_jacobian (q : Quaternion ℝ) :
    HasJacobian (fun δ => (Quaternion.exp (Vec3.of δ) * q).get) q.plusJacobian.toMatrix 0 := by
  have product := exp_derivative.mul_const' q.hamilton
  have mapped := coordinates.toContinuousLinearMap.hasFDerivAt.comp (0 : Fin 3 → ℝ) product
  refine (mapped.congr_fderiv ?_).congr_of_eventuallyEq ?_
  · ext1 v
    calc coordinates ((halfTurn (Vec3.of v)).hamilton * q.hamilton)
        = (halfTurn (Vec3.of v) * q).get := by rw [← product_hamilton, hamilton_coordinates]
      _ = q.plusJacobian.toMatrix *ᵥ v := (plus_jacobian_act q v).symm
  · refine Filter.Eventually.of_forall fun δ => ?_
    simp only [← hamilton_coordinates, product_hamilton]
    rfl


def imaginaryPart : ℍ[ℝ] →ₗ[ℝ] Fin 3 → ℝ where
  toFun h := ![h.imI, h.imJ, h.imK]
  map_add' a b := by
    ext i
    fin_cases i <;> rfl
  map_smul' s a := by
    ext i
    fin_cases i <;> rfl

theorem hamilton_imaginary (q : Quaternion ℝ) : imaginaryPart q.hamilton = q.imag.get := by
  ext i
  fin_cases i <;> rfl

-- Rotation is conjugation.
theorem act_conjugates (q : Quaternion ℝ) (v : Vec3 ℝ) :
    (q.toMat.act v).get = (q * Quaternion.ofParts 0 v * q.conj).imag.get := by
  rw [act_get, rotation_matrix, quaternion_product, quaternion_product]
  ext i
  fin_cases i <;>
    simp [Quaternion.ofParts, Quaternion.conj, Quaternion.imag, Vec3.get, mulVec, dotProduct, Fin.sum_univ_three] <;>
    ring

theorem exp_back_derivative :
    HasFDerivAt (fun δ : Fin 3 → ℝ => (Quaternion.exp (Vec3.of δ)).conj.hamilton)
      (-halfTurnMap.toContinuousLinearMap) 0 := by
  have reversed : HasFDerivAt (fun δ : Fin 3 → ℝ => -δ) (-ContinuousLinearMap.id ℝ (Fin 3 → ℝ)) 0 :=
    (hasFDerivAt_id 0).neg
  have there : HasFDerivAt (fun δ : Fin 3 → ℝ => (Quaternion.exp (Vec3.of δ)).hamilton)
      halfTurnMap.toContinuousLinearMap (-(0 : Fin 3 → ℝ)) := by
    rw [neg_zero]
    exact exp_derivative
  refine ((there.comp 0 reversed).congr_fderiv ?_).congr_of_eventuallyEq ?_
  · ext1 v
    exact map_neg halfTurnMap v
  · exact Filter.Eventually.of_forall fun δ => congrArg Quaternion.hamilton (exp_neg (Vec3.of δ)).symm

-- To first order a rotation adds the cross product with its vector.
theorem half_turns_cross (v : Vec3 ℝ) (w : Fin 3 → ℝ) :
    (halfTurn (Vec3.of w) * Quaternion.ofParts 0 v).imag.get - (Quaternion.ofParts 0 v * halfTurn (Vec3.of w)).imag.get =
      -v.skew.toMatrix *ᵥ w := by
  rw [quaternion_product, quaternion_product, skew_matrix]
  ext i
  fin_cases i <;>
    simp [halfTurn, Quaternion.ofParts, Quaternion.imag, Vec3.of, Vec3.divide, Vec3.get, mulVec, dotProduct,
      Fin.sum_univ_three] <;>
    ring

theorem exp_rotation_jacobian (v : Vec3 ℝ) :
    HasJacobian (fun δ => ((Quaternion.exp (Vec3.of δ)).toMat.act v).get) (-v.skew.toMatrix) 0 := by
  have start : Quaternion.exp (Vec3.of (0 : Fin 3 → ℝ)) = Quaternion.identity := exp_zero
  have conjugated := (exp_derivative.mul_const' (Quaternion.ofParts 0 v).hamilton).mul' exp_back_derivative
  have mapped := imaginaryPart.toContinuousLinearMap.hasFDerivAt.comp (0 : Fin 3 → ℝ) conjugated
  refine (mapped.congr_fderiv ?_).congr_of_eventuallyEq ?_
  · ext1 w
    rw [start]
    have one : (Quaternion.identity : Quaternion ℝ).hamilton = 1 := rfl
    have back : (Quaternion.identity : Quaternion ℝ).conj.hamilton = 1 := by
      rw [conj_hamilton, one, star_one]
    calc imaginaryPart ((Quaternion.identity : Quaternion ℝ).hamilton * (Quaternion.ofParts 0 v).hamilton *
            -(halfTurn (Vec3.of w)).hamilton +
          (halfTurn (Vec3.of w)).hamilton * (Quaternion.ofParts 0 v).hamilton *
            (Quaternion.identity : Quaternion ℝ).conj.hamilton)
        = imaginaryPart ((halfTurn (Vec3.of w)).hamilton * (Quaternion.ofParts 0 v).hamilton) -
            imaginaryPart ((Quaternion.ofParts 0 v).hamilton * (halfTurn (Vec3.of w)).hamilton) := by
          rw [one, back, one_mul, mul_one, mul_neg, neg_add_eq_sub, map_sub]
      _ = -v.skew.toMatrix *ᵥ w := by
          rw [← product_hamilton, ← product_hamilton, hamilton_imaginary, hamilton_imaginary, half_turns_cross]
  · refine Filter.Eventually.of_forall fun δ => ?_
    simp only [act_conjugates, ← hamilton_imaginary, product_hamilton]
    rfl

end LandmarkMap
end
