import LandmarkMap.Proofs.Exact.Rotations
import LandmarkMap.Geometry.Pose

set_option autoImplicit false

namespace LandmarkMap

open Matrix

theorem add_coordinates (v w : Vec3 ℝ) : v + w = ⟨v.x + w.x, v.y + w.y, v.z + w.z⟩ := rfl

theorem sub_coordinates (v w : Vec3 ℝ) : v - w = ⟨v.x - w.x, v.y - w.y, v.z - w.z⟩ := rfl

theorem neg_coordinates (v : Vec3 ℝ) : -v = ⟨-v.x, -v.y, -v.z⟩ := rfl

def Pose.IsRigid (t : Pose ℝ) : Prop := t.rotation.IsUnit

section Rotation

variable (q : Quaternion ℝ)

-- Only a unit quaternion turns a vector as its matrix does.
theorem rotate_get (unit : q.IsUnit) (v : Vec3 ℝ) : (q.rotate v).get = q.toMat.toMatrix *ᵥ v.get := by
  rw [unit_dot, quaternion_dot] at unit
  rw [rotation_matrix, Quaternion.rotate, space_get_add, space_get_add, space_get_scale]
  funext i
  fin_cases i
  · simp [Quaternion.imag, Vec3.cross, Vec3.scale, Vec3.get, mulVec, dotProduct, Fin.sum_univ_three]
    linear_combination -v.x * unit
  · simp [Quaternion.imag, Vec3.cross, Vec3.scale, Vec3.get, mulVec, dotProduct, Fin.sum_univ_three]
    linear_combination -v.y * unit
  · simp [Quaternion.imag, Vec3.cross, Vec3.scale, Vec3.get, mulVec, dotProduct, Fin.sum_univ_three]
    linear_combination -v.z * unit

theorem conj_conj : q.conj.conj = q := by
  simp [Quaternion.conj]

theorem unit_conj (unit : q.IsUnit) : q.conj.IsUnit := by
  rw [unit_dot, quaternion_dot] at *
  simp only [Quaternion.conj]
  linear_combination unit

theorem conj_product (unit : q.IsUnit) : q.conj * q = Quaternion.identity := by
  rw [unit_dot, quaternion_dot] at unit
  rw [quaternion_product]
  simp only [Quaternion.conj, Quaternion.identity, Quaternion.mk.injEq]
  refine ⟨by ring, by ring, by ring, ?_⟩
  linear_combination unit

theorem identity_rotation : (Quaternion.identity : Quaternion ℝ).toMat = Mat.identity := by
  apply matrix_ext
  rw [rotation_matrix, matrix_identity]
  ext i j
  fin_cases i <;> fin_cases j <;> simp [Quaternion.identity]

theorem rotation_orthogonal (unit : q.IsUnit) : q.toMat.toMatrixᵀ * q.toMat.toMatrix = 1 := by
  rw [← matrix_transpose, ← conj_rotation, ← matrix_mul, ← rotation_product, conj_product q unit, identity_rotation,
    matrix_identity]

theorem identity_rotate (v : Vec3 ℝ) : Quaternion.identity.rotate v = v := by
  apply space_ext
  rw [rotate_get _ unit_identity, identity_rotation, matrix_identity, one_mulVec]

theorem identity_conj : (Quaternion.identity : Quaternion ℝ).conj = Quaternion.identity := by
  simp [Quaternion.conj, Quaternion.identity]

variable (unit : q.IsUnit) (v w : Vec3 ℝ)

include unit

theorem rotate_add : q.rotate (v + w) = q.rotate v + q.rotate w := by
  apply space_ext
  simp only [rotate_get q unit, space_get_add, mulVec_add]

theorem rotate_sub : q.rotate (v - w) = q.rotate v - q.rotate w := by
  apply space_ext
  simp only [rotate_get q unit, space_get_sub, mulVec_sub]

theorem rotate_neg : q.rotate (-v) = -q.rotate v := by
  apply space_ext
  simp only [rotate_get q unit, space_get_neg, mulVec_neg]

theorem rotate_scale (s : ℝ) : q.rotate (v.scale s) = (q.rotate v).scale s := by
  apply space_ext
  simp only [rotate_get q unit, space_get_scale, mulVec_smul]

theorem rotate_back : q.conj.rotate (q.rotate v) = v := by
  apply space_ext
  rw [rotate_get _ (unit_conj q unit), rotate_get q unit, conj_rotation, matrix_transpose, mulVec_mulVec,
    rotation_orthogonal q unit, one_mulVec]

theorem rotate_forth : q.rotate (q.conj.rotate v) = v := by
  have back := rotate_back q.conj (unit_conj q unit) v
  rwa [conj_conj] at back

theorem rotate_dot : (q.rotate v).dot (q.rotate w) = v.dot w := by
  rw [space_dot, space_dot, rotate_get q unit, rotate_get q unit, dotProduct_mulVec, ← mulVec_transpose, mulVec_mulVec,
    rotation_orthogonal q unit, one_mulVec]

theorem rotate_norm : (q.rotate v).norm = v.norm := by
  rw [Vec3.norm, Vec3.norm, Vec3.normSq, Vec3.normSq, rotate_dot q unit]

theorem rotate_zero : q.rotate v = Vec3.zero ↔ v = Vec3.zero := by
  constructor
  · intro none
    rw [← rotate_back q unit v, none]
    apply space_ext
    rw [rotate_get _ (unit_conj q unit), space_get_zero, mulVec_zero]
  · rintro rfl
    apply space_ext
    rw [rotate_get q unit, space_get_zero, mulVec_zero]

end Rotation

theorem rotate_product (a b : Quaternion ℝ) (first : a.IsUnit) (second : b.IsUnit) (v : Vec3 ℝ) :
    (a * b).rotate v = a.rotate (b.rotate v) := by
  apply space_ext
  rw [rotate_get _ (unit_product a b first second), rotate_get a first, rotate_get b second, rotation_product, matrix_mul,
    mulVec_mulVec]

theorem apply_get (t : Pose ℝ) (rigid : t.IsRigid) (p : Vec3 ℝ) :
    (t.apply p).get = t.rotation.toMat.toMatrix *ᵥ p.get + t.position.get := by
  rw [Pose.apply, space_get_add, rotate_get _ rigid]

section Transform

variable (s t u : Pose ℝ) (p q : Vec3 ℝ)

theorem pose_product : s * t = ⟨s.rotation * t.rotation, s.position + s.rotation.rotate t.position⟩ := rfl

theorem at_position_rigid : (Pose.atPosition p).IsRigid := unit_identity

theorem at_position_product : Pose.atPosition p * Pose.atPosition q = Pose.atPosition (p + q) := by
  rw [pose_product]
  simp only [Pose.atPosition, identity_product, identity_rotate]

theorem at_position_inverse : (Pose.atPosition p).inverse = Pose.atPosition (-p) := by
  simp only [Pose.inverse, Pose.atPosition, identity_conj, identity_rotate]

theorem at_position_apply : (Pose.atPosition p).apply q = q + p := by
  simp only [Pose.apply, Pose.atPosition, identity_rotate]

theorem at_position_back : (Pose.atPosition p).applyInverse q = q - p := by
  simp only [Pose.applyInverse, Pose.atPosition, identity_conj, identity_rotate]

theorem rigid_product (first : s.IsRigid) (second : t.IsRigid) : (s * t).IsRigid :=
  unit_product s.rotation t.rotation first second

theorem rigid_inverse (rigid : t.IsRigid) : t.inverse.IsRigid := unit_conj t.rotation rigid

theorem apply_back (rigid : t.IsRigid) : t.applyInverse (t.apply p) = p := by
  have shift : t.apply p - t.position = t.rotation.rotate p := by
    apply space_ext
    rw [Pose.apply, space_get_sub, space_get_add, add_sub_cancel_right]
  rw [Pose.applyInverse, shift, rotate_back _ rigid]

theorem apply_forth (rigid : t.IsRigid) : t.apply (t.applyInverse p) = p := by
  rw [Pose.apply, Pose.applyInverse, rotate_forth _ rigid]
  apply space_ext
  rw [space_get_add, space_get_sub, sub_add_cancel]

theorem product_apply (first : s.IsRigid) (second : t.IsRigid) : (s * t).apply p = s.apply (t.apply p) := by
  rw [pose_product, Pose.apply, Pose.apply, Pose.apply, rotate_product _ _ first second, rotate_add _ first]
  apply space_ext
  simp only [space_get_add]
  abel

theorem product_back (first : s.IsRigid) (second : t.IsRigid) :
    (s * t).applyInverse p = t.applyInverse (s.applyInverse p) := by
  have whole := apply_back (s * t) (t.applyInverse (s.applyInverse p)) (rigid_product s t first second)
  rwa [product_apply s t _ first second, apply_forth t _ second, apply_forth s p first] at whole

theorem inverse_apply (rigid : t.IsRigid) : t.inverse.apply p = t.applyInverse p := by
  rw [Pose.inverse, Pose.apply, Pose.applyInverse, rotate_sub _ (unit_conj _ rigid), rotate_neg _ (unit_conj _ rigid)]
  apply space_ext
  rw [space_get_add, space_get_sub, space_get_neg, sub_eq_add_neg]

theorem inverse_back (rigid : t.IsRigid) : t.inverse.applyInverse p = t.apply p := by
  have back := apply_back t.inverse (t.apply p) (rigid_inverse t rigid)
  rwa [inverse_apply t _ rigid, apply_back t p rigid] at back

theorem apply_difference (rigid : t.IsRigid) : t.apply p - t.apply q = t.rotation.rotate (p - q) := by
  rw [Pose.apply, Pose.apply, rotate_sub _ rigid]
  apply space_ext
  simp only [space_get_add, space_get_sub]
  abel

theorem product_position : (s * t).position = s.apply t.position := by
  rw [pose_product, Pose.apply]
  apply space_ext
  rw [space_get_add, space_get_add, add_comm]

theorem pose_assoc (first : s.IsRigid) (second : t.IsRigid) : s * t * u = s * (t * u) := by
  rw [pose_product (s * t), pose_product s (t * u), product_position, product_position, pose_product s t,
    pose_product t u, Pose.apply, rotate_product _ _ first second]
  simp only [product_assoc, Pose.mk.injEq, true_and]
  rw [Pose.apply, rotate_add _ first]
  apply space_ext
  simp only [space_get_add]
  abel

end Transform

end LandmarkMap
