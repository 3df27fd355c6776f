import Mathlib.Analysis.Calculus.Deriv.Inv
import LandmarkMap.Solver.Reprojection
import LandmarkMap.Proofs.Solver.Updates

set_option autoImplicit false

namespace LandmarkMap

open Filter Matrix Topology

variable {n : Nat} (s : ReprojectionState ℝ)

theorem offset_get :
    s.offset.get = s.anchor.get + s.inverseDepth⁻¹ • s.direction.get - s.bodyPosition.get := by
  rw [ReprojectionState.offset, space_get_sub, space_get_add, space_get_divide]

theorem in_camera_get :
    s.inCamera.get = (s.cameraMat * s.bodyMat.transpose).toMatrix *ᵥ s.offset.get + s.cameraPosition.get := by
  rw [ReprojectionState.inCamera, ReprojectionState.inBody, space_get_add, act_get, act_get, mulVec_mulVec, matrix_mul]

-- What moves the landmark along the axes of the mission is seen through the rotations.
theorem offset_moves (path : (Fin n → ℝ) → ReprojectionState ℝ) (m : Matrix (Fin 3) (Fin n) ℝ) (x : Fin n → ℝ)
    (still : ∀ y, (path y).bodyMat = s.bodyMat ∧ (path y).cameraMat = s.cameraMat ∧
      (path y).cameraPosition = s.cameraPosition)
    (moves : HasJacobian (fun y => (path y).offset.get) m x) :
    HasJacobian (fun y => (path y).inCamera.get) ((s.cameraMat * s.bodyMat.transpose).toMatrix * m) x := by
  have seen := jacobian_shift _ _ x s.cameraPosition.get (jacobian_chain _ _ _ _ x
    (jacobian_linear (s.cameraMat * s.bodyMat.transpose).toMatrix _) moves)
  refine jacobian_same _ _ _ _ seen fun y => ?_
  obtain ⟨body, camera, position⟩ := still y
  rw [in_camera_get, body, camera, position]

theorem anchor_offset (x : Fin 3 → ℝ) :
    HasJacobian (fun y => ({ s with anchor := Vec3.of y } : ReprojectionState ℝ).offset.get) 1 x := by
  have moved := jacobian_shift _ _ x (s.inverseDepth⁻¹ • s.direction.get - s.bodyPosition.get) (jacobian_identity x)
  refine jacobian_same _ _ _ _ moved fun y => ?_
  rw [offset_get, space_get_of, add_sub_assoc]
  rfl

theorem position_offset (x : Fin 3 → ℝ) :
    HasJacobian (fun y => ({ s with bodyPosition := Vec3.of y } : ReprojectionState ℝ).offset.get) (-1) x := by
  have moved := jacobian_shift _ _ x (s.anchor.get + s.inverseDepth⁻¹ • s.direction.get)
    (jacobian_linear (-1 : Matrix (Fin 3) (Fin 3) ℝ) x)
  refine jacobian_same _ _ _ _ moved fun y => ?_
  rw [offset_get, space_get_of, neg_mulVec, one_mulVec, neg_add_eq_sub]
  rfl

theorem depth_offset (x : Fin 1 → ℝ) (deep : x 0 ≠ 0) :
    HasJacobian (fun y => ({ s with inverseDepth := y 0 } : ReprojectionState ℝ).offset.get)
      (Matrix.of fun i _ => -(x 0 ^ 2)⁻¹ * s.direction.get i) x := by
  have moved := jacobian_shift _ _ x (s.anchor.get - s.bodyPosition.get)
    (jacobian_curve _ _ s.direction.get x (hasDerivAt_inv deep))
  refine jacobian_same _ _ _ _ moved fun y => ?_
  rw [offset_get]
  change s.anchor.get + (y 0)⁻¹ • s.direction.get - s.bodyPosition.get = _
  abel

theorem direction_jacobian (q : Quaternion ℝ) :
    HasJacobian (fun x => (Bearing.directionOf (Quaternion.of x)).get) (Bearing.directionJacobian q).toMatrix q.get := by
  have x := coordinate_derivative 0 q.get
  have y := coordinate_derivative 1 q.get
  have z := coordinate_derivative 2 q.get
  have w := coordinate_derivative 3 q.get
  have first := ((x.mul z).add (w.mul y)).const_mul 2
  have second := ((y.mul z).sub (w.mul x)).const_mul 2
  have third := (((w.mul w).sub (x.mul x)).sub (y.mul y)).add (z.mul z)
  refine jacobian_rows _ _ _ ![_, _, _] (Fin.forall_fin_succ.mpr ⟨first.congr_of_eventuallyEq ?_,
    Fin.forall_fin_two.mpr ⟨second.congr_of_eventuallyEq ?_, third⟩⟩) ?_
  · refine Eventually.of_forall fun v => ?_
    simp [Bearing.directionOf, Vec3.get, Quaternion.of]
  · refine Eventually.of_forall fun v => ?_
    simp [Bearing.directionOf, Vec3.get, Quaternion.of]
  · intro i k
    fin_cases i <;> fin_cases k <;> simp [Bearing.directionJacobian, Mat.get, Quaternion.get] <;> ring

theorem bearing_product_jacobian (q : Quaternion ℝ) :
    HasJacobian (fun δ => (Bearing.plus ⟨q⟩ (Vec2.of δ)).rotation.get) (Bearing.plusJacobian ⟨q⟩).toMatrix 0 := by
  have spanned := jacobian_linear (Bearing.tangentBasis ⟨q⟩).toMatrix (0 : Fin 2 → ℝ)
  have outer : HasJacobian (fun δ => (Quaternion.exp (Vec3.of δ) * q).get) q.plusJacobian.toMatrix
      ((Bearing.tangentBasis ⟨q⟩).toMatrix *ᵥ 0) := by
    rw [mulVec_zero]
    exact exp_product_jacobian q
  have moved := jacobian_chain _ _ _ _ 0 outer spanned
  rw [Bearing.plusJacobian, matrix_mul]
  refine jacobian_same _ _ _ _ moved fun δ => ?_
  have tangent : Bearing.tangent ⟨q⟩ (Vec2.of δ) = Vec3.of ((Bearing.tangentBasis ⟨q⟩).toMatrix *ᵥ δ) := by
    apply space_ext
    rw [Bearing.tangent, act_plane_get, plane_get_of, space_get_of]
  rw [Bearing.plus, tangent]

theorem bearing_offset :
    HasJacobian (fun δ => ({ s with bearing := (Bearing.plus ⟨s.bearing⟩ (Vec2.of δ)).rotation } :
        ReprojectionState ℝ).offset.get)
      (s.inverseDepth⁻¹ • ((Bearing.directionJacobian s.bearing).toMatrix * (Bearing.plusJacobian ⟨s.bearing⟩).toMatrix))
      0 := by
  have product := bearing_product_jacobian s.bearing
  have start : (Bearing.plus ⟨s.bearing⟩ (Vec2.of (0 : Fin 2 → ℝ))).rotation = s.bearing := bearing_still s.bearing
  have outer := direction_jacobian s.bearing
  rw [← start] at outer
  have direction := jacobian_chain _ _ _ _ 0 outer product
  rw [start] at direction
  have moved := jacobian_shift _ _ 0 (s.anchor.get - s.bodyPosition.get) (jacobian_smul _ _ 0 s.inverseDepth⁻¹ direction)
  refine jacobian_same _ _ _ _ moved fun δ => ?_
  rw [offset_get]
  change s.anchor.get + s.inverseDepth⁻¹ • (Bearing.directionOf (Bearing.plus ⟨s.bearing⟩ (Vec2.of δ)).rotation).get -
    s.bodyPosition.get = _
  have whole : ∀ q : Quaternion ℝ, Quaternion.of q.get = q := fun q => rfl
  rw [whole]
  abel

-- Backwards, a rotation turns a vector the other way.
theorem back_rotation_jacobian (v : Vec3 ℝ) :
    HasJacobian (fun δ => (Quaternion.exp (Vec3.of δ)).toMat.transpose.toMatrix *ᵥ v.get) v.skew.toMatrix 0 := by
  have reversed := jacobian_linear (-1 : Matrix (Fin 3) (Fin 3) ℝ) 0
  have outer : HasJacobian (fun δ => ((Quaternion.exp (Vec3.of δ)).toMat.act v).get) (-v.skew.toMatrix)
      ((-1 : Matrix (Fin 3) (Fin 3) ℝ) *ᵥ 0) := by
    rw [mulVec_zero]
    exact exp_rotation_jacobian v
  have back := jacobian_congr _ _ v.skew.toMatrix _ (jacobian_chain _ _ _ _ 0 outer reversed) (by simp)
  refine jacobian_same _ _ _ _ back fun δ => ?_
  have negated : Vec3.of ((-1 : Matrix (Fin 3) (Fin 3) ℝ) *ᵥ δ) = -Vec3.of δ := by
    apply space_ext
    rw [space_get_neg, space_get_of, space_get_of, neg_mulVec, one_mulVec]
  rw [negated, exp_neg, conj_rotation, act_get]

theorem unit_turned (q : Quaternion ℝ) (unit : q.IsUnit) (v : Vec3 ℝ) :
    (Quaternion.exp v * q).normalize.toMat = (Quaternion.exp v).toMat * q.normalize.toMat := by
  rw [unit_normalize _ (unit_product _ _ (unit_exp v) unit), unit_normalize q unit, rotation_product]

theorem body_rotation_moves (unit : s.bodyRotation.IsUnit) :
    HasJacobian (fun δ => ({ s with bodyRotation := Quaternion.exp (Vec3.of δ) * s.bodyRotation } :
        ReprojectionState ℝ).inCamera.get)
      ((s.cameraMat * s.bodyMat.transpose).toMatrix * s.offset.skew.toMatrix) 0 := by
  have seen := jacobian_shift _ _ 0 s.cameraPosition.get (jacobian_chain _ _ _ _ 0
    (jacobian_linear (s.cameraMat * s.bodyMat.transpose).toMatrix _) (back_rotation_jacobian s.offset))
  refine jacobian_same _ _ _ _ seen fun δ => ?_
  have turned : ({ s with bodyRotation := Quaternion.exp (Vec3.of δ) * s.bodyRotation } : ReprojectionState ℝ).bodyMat =
      (Quaternion.exp (Vec3.of δ)).toMat * s.bodyMat := unit_turned s.bodyRotation unit (Vec3.of δ)
  rw [in_camera_get, turned]
  simp only [matrix_mul, matrix_transpose, transpose_mul, mulVec_mulVec, Matrix.mul_assoc]
  rfl

theorem camera_rotation_moves (unit : s.cameraRotation.IsUnit) :
    HasJacobian (fun δ => ({ s with cameraRotation := Quaternion.exp (Vec3.of δ) * s.cameraRotation } :
        ReprojectionState ℝ).inCamera.get) (-(s.cameraMat.act s.inBody).skew.toMatrix) 0 := by
  have seen := jacobian_shift _ _ 0 s.cameraPosition.get (exp_rotation_jacobian (s.cameraMat.act s.inBody))
  refine jacobian_same _ _ _ _ seen fun δ => ?_
  have turned : ({ s with cameraRotation := Quaternion.exp (Vec3.of δ) * s.cameraRotation } : ReprojectionState ℝ).cameraMat =
      (Quaternion.exp (Vec3.of δ)).toMat * s.cameraMat := unit_turned s.cameraRotation unit (Vec3.of δ)
  rw [ReprojectionState.inCamera, turned, space_get_add, act_get, act_get, act_get, matrix_mul, mulVec_mulVec]
  rfl

theorem camera_position_moves (x : Fin 3 → ℝ) :
    HasJacobian (fun y => ({ s with cameraPosition := Vec3.of y } : ReprojectionState ℝ).inCamera.get) 1 x := by
  have moved := jacobian_shift _ _ x (s.cameraMat.act s.inBody).get (jacobian_identity x)
  refine jacobian_same _ _ _ _ moved fun y => ?_
  rw [ReprojectionState.inCamera, space_get_add, space_get_of, add_comm]
  rfl

end LandmarkMap
