import LandmarkMap.Proofs.Solver.Updates

set_option autoImplicit false

namespace LandmarkMap

open Matrix

variable {r : Nat} (j : Mat r 3 ℝ) (q : Quaternion ℝ)

-- What a solver gets for a block: it reads the Jacobian that was written for the block and the one that the
-- update writes, and multiplies them.
def Parameterization.Recovers (p : Parameterization ℝ) (x : List ℝ) (ambient : Mat r p.globalSize ℝ)
    (localJacobian : Mat r p.localSize ℝ) : Prop :=
  ∀ slot buffer : List ℝ, slot.length = r * p.globalSize → buffer.length = p.globalSize * p.localSize →
    ∃ (written update : List ℝ) (read : Mat r p.globalSize ℝ) (tangent : Mat p.globalSize p.localSize ℝ),
      ambient.writeRowMajor slot = .ok written ∧ Mat.ofRowMajor r p.globalSize written = .ok read ∧
      p.jacobian x buffer = .ok (true, update) ∧ Mat.ofRowMajor p.globalSize p.localSize update = .ok tangent ∧
      read * tangent = localJacobian

theorem quaternion_norm_squared : q.norm ^ 2 = q.dot q := by
  rw [Quaternion.norm, real_sqrt, Real.sq_sqrt]
  rw [dot_hamilton]
  exact mul_self_nonneg _

theorem plus_jacobian_columns : q.plusJacobian.transpose * q.plusJacobian = Mat.identity.scale (q.norm ^ 2 / 4) := by
  apply matrix_ext
  rw [matrix_mul, matrix_transpose, plus_jacobian_gram, matrix_scale, matrix_identity, quaternion_norm_squared]

-- No update moves a quaternion along itself.
theorem plus_jacobian_tangent : q.get ᵥ* q.plusJacobian.toMatrix = 0 := by
  rw [plus_jacobian_matrix]
  ext i
  fin_cases i
  · simp [vecMul, dotProduct, Fin.sum_univ_four, Quaternion.get]
    ring
  · simp [vecMul, dotProduct, Fin.sum_univ_four, Quaternion.get]
    ring
  · simp [vecMul, dotProduct, Fin.sum_univ_four, Quaternion.get]
    ring

theorem lift_blind : (Quaternion.lift j q).toMatrix *ᵥ q.get = 0 := by
  rw [lift_matrix, smul_mulVec, ← mulVec_mulVec, mulVec_transpose, plus_jacobian_tangent, mulVec_zero, smul_zero]

theorem lift_product : Quaternion.lift j q * q.plusJacobian = j.scale (q.norm ^ 2) := by
  apply matrix_ext
  rw [matrix_mul, lift_plus_jacobian, matrix_scale, quaternion_norm_squared]

theorem lift_recovers : Parameterization.quaternion.Recovers q.toList (Quaternion.lift j q) (j.scale (q.norm ^ 2)) := by
  intro slot buffer room fits
  exact ⟨_, _, _, _, write_row_major_ok _ slot room, entries_read _, quaternion_jacobian q buffer fits, entries_read _,
    lift_product j q⟩

theorem scale_one : j.scale 1 = j := by
  apply matrix_ext
  rw [matrix_scale, one_smul]

theorem lifting_identities :
    q.plusJacobian.transpose * q.plusJacobian = Mat.identity.scale (q.norm ^ 2 / 4) ∧
      q.get ᵥ* q.plusJacobian.toMatrix = 0 ∧
      Quaternion.lift j q * q.plusJacobian = j.scale (q.norm ^ 2) ∧
      (q.IsUnit → Parameterization.quaternion.Recovers q.toList (Quaternion.lift j q) j) ∧
      (Quaternion.lift j q).toMatrix *ᵥ q.get = 0 := by
  refine ⟨plus_jacobian_columns q, plus_jacobian_tangent q, lift_product j q, fun unit => ?_, lift_blind j q⟩
  have length : q.norm = 1 := unit
  have recovered := lift_recovers j q
  rwa [length, one_pow, scale_one] at recovered

-- One row, and a quaternion that has no zero among its coefficients.
theorem turned_row_recovered :
    (⟨1 / 2, -1 / 2, 1 / 2, 1 / 2⟩ : Quaternion ℝ).IsUnit ∧
      Parameterization.quaternion.Recovers [1 / 2, -1 / 2, 1 / 2, 1 / 2]
        (Quaternion.lift (⟨#v[#v[1, 2, 3]]⟩ : Mat 1 3 ℝ) ⟨1 / 2, -1 / 2, 1 / 2, 1 / 2⟩) ⟨#v[#v[1, 2, 3]]⟩ := by
  have unit : (⟨1 / 2, -1 / 2, 1 / 2, 1 / 2⟩ : Quaternion ℝ).IsUnit := by
    rw [unit_dot, quaternion_dot]
    norm_num
  exact ⟨unit, (lifting_identities ⟨#v[#v[1, 2, 3]]⟩ ⟨1 / 2, -1 / 2, 1 / 2, 1 / 2⟩).2.2.2.1 unit⟩

end LandmarkMap
