import LandmarkMap.Proofs.Triangulation.SingularValues

set_option autoImplicit false

namespace LandmarkMap

open Matrix

-- The same sight after the world was moved.
noncomputable def Sight.moved (t : Pose ℝ) (s : Sight ℝ) : Sight ℝ := ⟨t.rotation.rotate s.bearing, t.apply s.center⟩

noncomputable def TriangulationResult.moved (t : Pose ℝ) : TriangulationResult ℝ → TriangulationResult ℝ
  | successful p => successful (t.apply p)
  | tooFewMeasurements => tooFewMeasurements
  | unobservable => unobservable

variable (t : Pose ℝ) (rigid : t.IsRigid)

include rigid

theorem moved_usable (s : Sight ℝ) : (s.moved t).isUsable = s.isUsable := by
  rw [usable_exact, usable_exact, decide_eq_decide, Sight.moved]
  exact not_congr (rotate_zero _ rigid _)

theorem moved_projector (s : Sight ℝ) :
    (s.moved t).projector.toMatrix =
      t.rotation.toMat.toMatrix * s.projector.toMatrix * t.rotation.toMat.toMatrixᵀ := by
  have whole := mul_eq_one_comm.mp (rotation_orthogonal _ rigid)
  rw [projector_matrix, projector_matrix, Sight.moved, ← space_dot, ← space_dot, rotate_dot _ rigid, rotate_get _ rigid,
    Matrix.mul_sub, Matrix.sub_mul, Matrix.mul_one, whole, Matrix.mul_smul, Matrix.smul_mul, mul_vecMulVec,
    vecMulVec_mul, vecMul_transpose]

theorem moved_normal (sights : List (Sight ℝ)) :
    let n := Triangulation.normal sights
    let m := Triangulation.normal (sights.map (·.moved t))
    m.matrix.toMatrix = t.rotation.toMat.toMatrix * n.matrix.toMatrix * t.rotation.toMat.toMatrixᵀ ∧
      m.rhs.get = t.rotation.toMat.toMatrix *ᵥ n.rhs.get + m.matrix.toMatrix *ᵥ t.position.get := by
  simp only [normal_matrix, normal_rhs]
  induction sights with
  | nil => simp
  | cons s rest ih =>
      obtain ⟨matrices, sides⟩ := ih
      simp only [List.map_cons, List.sum_cons]
      refine ⟨?_, ?_⟩
      · rw [matrices, moved_projector t rigid, Matrix.mul_add, Matrix.add_mul]
      · have turned : (s.moved t).projector.toMatrix *ᵥ (s.moved t).center.get =
            t.rotation.toMat.toMatrix *ᵥ s.projector.toMatrix *ᵥ s.center.get +
              (s.moved t).projector.toMatrix *ᵥ t.position.get := by
          rw [Sight.moved, apply_get t rigid, mulVec_add]
          congr 1
          change (s.moved t).projector.toMatrix *ᵥ _ = _
          rw [moved_projector t rigid, mulVec_mulVec, Matrix.mul_assoc, Matrix.mul_assoc, rotation_orthogonal _ rigid,
            Matrix.mul_one, mulVec_mulVec]
        rw [turned, sides, mulVec_add, add_mulVec]
        abel

theorem moved_solution (n m : Triangulation.Normal ℝ) (p q : Vec3 ℝ)
    (matrix : m.matrix.toMatrix = t.rotation.toMat.toMatrix * n.matrix.toMatrix * t.rotation.toMat.toMatrixᵀ)
    (rhs : m.rhs.get = t.rotation.toMat.toMatrix *ᵥ n.rhs.get + m.matrix.toMatrix *ᵥ t.position.get)
    (full : IsUnit m.matrix.toMatrix) (before : n.matrix.toMatrix *ᵥ p.get = n.rhs.get)
    (after : m.matrix.toMatrix *ᵥ q.get = m.rhs.get) : q = t.apply p := by
  apply space_ext
  apply mulVec_injective_of_isUnit full
  rw [after, rhs, ← before, apply_get t rigid, mulVec_add, matrix]
  congr 1
  rw [mulVec_mulVec, mulVec_mulVec, Matrix.mul_assoc _ _ t.rotation.toMat.toMatrix, Matrix.mul_assoc,
    rotation_orthogonal _ rigid, Matrix.mul_one]

omit rigid in
theorem solve_deficient [Spectral ℝ] (n : Triangulation.Normal ℝ)
    (deficient : ¬ (0 < (Spectral.svd n.matrix).largest ∧
      ¬ (Spectral.svd n.matrix).rank (Triangulation.rankTolerance * (Spectral.svd n.matrix).largest) < 3)) :
    Triangulation.solve n = .unobservable := by
  rw [Triangulation.solve]
  by_cases positive : 0 < (Spectral.svd n.matrix).largest
  · simp only [positive, not_true, if_false]
    exact if_pos (not_not.mp fun full => deficient ⟨positive, full⟩)
  · exact if_pos positive

-- The singular values stay as they are, so that both solutions exist or neither does.
theorem moved_solve [Spectral ℝ] (exact : ExactSvd) (n m : Triangulation.Normal ℝ)
    (definite : n.matrix.toMatrix.PosSemidef) (definite' : m.matrix.toMatrix.PosSemidef)
    (matrix : m.matrix.toMatrix = t.rotation.toMat.toMatrix * n.matrix.toMatrix * t.rotation.toMat.toMatrixᵀ)
    (rhs : m.rhs.get = t.rotation.toMat.toMatrix *ᵥ n.rhs.get + m.matrix.toMatrix *ᵥ t.position.get) :
    Triangulation.solve m = (Triangulation.solve n).moved t := by
  have decomposed := exact m.matrix definite'
  rw [matrix] at decomposed
  have values := values_turned _ _ _ _ (rotation_orthogonal _ rigid) (exact n.matrix definite) decomposed
  have largest := largest_perm _ _ values
  have rank := rank_perm _ _ values
  by_cases determined : 0 < (Spectral.svd n.matrix).largest ∧
      ¬ (Spectral.svd n.matrix).rank (Triangulation.rankTolerance * (Spectral.svd n.matrix).largest) < 3
  · obtain ⟨positive, full⟩ := determined
    obtain ⟨p, before⟩ := solve_found n positive ((rank_full _ _).mp full)
    rw [← rank, ← largest] at full
    rw [← largest] at positive
    obtain ⟨q, after⟩ := solve_found m positive ((rank_full _ _).mp full)
    obtain ⟨_, solved⟩ := solve_successful exact n definite p before
    obtain ⟨unit, solved'⟩ := solve_successful exact m definite' q after
    rw [before, after, moved_solution t rigid n m p q matrix rhs unit solved solved']
    rfl
  · rw [solve_deficient n determined, solve_deficient m (by rwa [largest, rank])]
    rfl

theorem moved_sights [Spectral ℝ] (exact : ExactSvd) (sights : List (Sight ℝ)) :
    Triangulation.ofSights (sights.map (·.moved t)) = (Triangulation.ofSights sights).moved t := by
  have usable : (sights.map (·.moved t)).filter Sight.isUsable = (sights.filter Sight.isUsable).map (·.moved t) := by
    rw [List.filter_map]
    congr 2
    funext s
    exact moved_usable t rigid s
  rw [Triangulation.ofSights, Triangulation.ofSights, usable, List.length_map]
  by_cases few : (sights.filter Sight.isUsable).length < 2
  · rw [if_pos few, if_pos few]
    rfl
  · rw [if_neg few, if_neg few]
    obtain ⟨matrix, rhs⟩ := moved_normal t rigid (sights.filter Sight.isUsable)
    refine moved_solve t rigid exact _ _ (normal_definite _ (usable_seen sights)) ?_ matrix rhs
    rw [← usable]
    exact normal_definite _ (usable_seen _)

end LandmarkMap
