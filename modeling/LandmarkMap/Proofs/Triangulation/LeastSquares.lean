import LandmarkMap.Proofs.Outcome
import LandmarkMap.Proofs.Triangulation.Lines

set_option autoImplicit false

namespace LandmarkMap

open Matrix

section Decomposition

-- Orthogonal factors around singular values that are not negative.
structure Svd.Decomposes (d : Svd ℝ) (a : Matrix (Fin 3) (Fin 3) ℝ) : Prop where
  left : d.left.toMatrixᵀ * d.left.toMatrix = 1
  right : d.right.toMatrixᵀ * d.right.toMatrix = 1
  values : ∀ i, 0 ≤ d.values.get i
  product : d.left.toMatrix * diagonal d.values.get * d.right.toMatrixᵀ = a

-- Nothing is lost in the decomposition of the matrices that a sum of projections can give.
def ExactSvd [Spectral ℝ] : Prop := ∀ a : Mat 3 3 ℝ, a.toMatrix.PosSemidef → (Spectral.svd a).Decomposes a.toMatrix

theorem svd_invertible (d : Svd ℝ) (a : Matrix (Fin 3) (Fin 3) ℝ) (exact : d.Decomposes a)
    (positive : ∀ i, 0 < d.values.get i) : IsUnit a := by
  have left : IsUnit d.left.toMatrix := IsUnit.of_mul_eq_one _ (mul_eq_one_comm.mp exact.left)
  have right : IsUnit d.right.toMatrixᵀ := IsUnit.of_mul_eq_one _ exact.right
  have values : IsUnit (diagonal d.values.get) := by
    rw [Matrix.isUnit_diagonal, Pi.isUnit_iff]
    exact fun i => (positive i).ne'.isUnit
  rw [← exact.product]
  exact (left.mul values).mul right

theorem svd_solves (d : Svd ℝ) (a : Matrix (Fin 3) (Fin 3) ℝ) (rhs : Vec3 ℝ) (threshold : ℝ) (exact : d.Decomposes a)
    (positive : 0 ≤ threshold) (large : ∀ i, threshold < d.values.get i) :
    a *ᵥ (d.solve rhs threshold).get = rhs.get := by
  have nonzero : ∀ i, d.values.get i ≠ 0 := fun i => (positive.trans_lt (large i)).ne'
  have solution : (d.solve rhs threshold).get =
      d.right.toMatrix *ᵥ fun i => (d.left.toMatrixᵀ *ᵥ rhs.get) i / d.values.get i := by
    rw [Svd.solve, act_get, space_get_of, act_get, matrix_transpose]
    congr 1
    funext i
    exact if_pos (large i)
  have scaled : (diagonal d.values.get *ᵥ fun i => (d.left.toMatrixᵀ *ᵥ rhs.get) i / d.values.get i) =
      d.left.toMatrixᵀ *ᵥ rhs.get := by
    funext i
    rw [mulVec_diagonal, mul_div_cancel₀ _ (nonzero i)]
  rw [solution, ← exact.product, mulVec_mulVec, Matrix.mul_assoc, exact.right, Matrix.mul_one, ← mulVec_mulVec, scaled,
    mulVec_mulVec, mul_eq_one_comm.mp exact.left, one_mulVec]

theorem rank_full (d : Svd ℝ) (threshold : ℝ) : ¬ d.rank threshold < 3 ↔ ∀ i, threshold < d.values.get i := by
  have bound : d.rank threshold ≤ 3 := List.countP_le_length
  have full : d.rank threshold = 3 ↔ ∀ v ∈ d.values.toList, decide (threshold < v) = true := List.countP_eq_length
  have listed : (∀ v ∈ d.values.toList, decide (threshold < v) = true) ↔ ∀ i, threshold < d.values.get i := by
    simp [Vec3.toList, Fin.forall_fin_succ, Vec3.get]
  rw [← listed, ← full]
  omega

theorem rank_tolerance : (Triangulation.rankTolerance : ℝ) = 1 / 10000000000 := by
  have small : (1e-10 : ℝ) = 1 / 10000000000 := by norm_num
  rw [Triangulation.rankTolerance, small]

theorem tolerance_nonnegative : (0 : ℝ) ≤ Triangulation.rankTolerance := by
  rw [rank_tolerance]
  norm_num

variable [Spectral ℝ]

theorem solve_outcomes (n : Triangulation.Normal ℝ) :
    Triangulation.solve n = .unobservable ∨
      ∃ threshold : ℝ, 0 ≤ threshold ∧ (∀ i, threshold < (Spectral.svd n.matrix).values.get i) ∧
        Triangulation.solve n = .successful ((Spectral.svd n.matrix).solve n.rhs threshold) := by
  rw [Triangulation.solve]
  by_cases some : 0 < (Spectral.svd n.matrix).largest
  · simp only [some, not_true, if_false]
    by_cases deficient : (Spectral.svd n.matrix).rank (Triangulation.rankTolerance * (Spectral.svd n.matrix).largest) < 3
    · exact .inl (if_pos deficient)
    · rw [if_neg deficient]
      exact .inr ⟨_, mul_nonneg tolerance_nonnegative some.le, (rank_full _ _).mp deficient, rfl⟩
  · simp only [some, not_false_eq_true, if_true, true_or]

-- A point comes out only at full rank, and then it solves the normal equations.
theorem solve_successful (exact : ExactSvd) (n : Triangulation.Normal ℝ) (definite : n.matrix.toMatrix.PosSemidef)
    (p : Vec3 ℝ) (found : Triangulation.solve n = .successful p) :
    IsUnit n.matrix.toMatrix ∧ n.matrix.toMatrix *ᵥ p.get = n.rhs.get := by
  have decomposed := exact n.matrix definite
  rcases solve_outcomes n with none | ⟨threshold, positive, large, same⟩
  · cases none.symm.trans found
  · cases same.symm.trans found
    exact ⟨svd_invertible _ _ decomposed fun i => positive.trans_lt (large i),
      svd_solves _ _ n.rhs threshold decomposed positive large⟩

theorem solve_singular (exact : ExactSvd) (n : Triangulation.Normal ℝ) (definite : n.matrix.toMatrix.PosSemidef)
    (singular : ¬ IsUnit n.matrix.toMatrix) : Triangulation.solve n = .unobservable := by
  rcases solve_outcomes n with none | ⟨_, _, _, found⟩
  · exact none
  · exact absurd (solve_successful exact n definite _ found).1 singular

end Decomposition

section Redrawing

-- Changes to a list of sights that keep the lines: a bearing of another length or turned around,
-- another order, a sight without a direction.
inductive Redrawn : List (Sight ℝ) → List (Sight ℝ) → Prop
  | scaled (before after : List (Sight ℝ)) (s : Sight ℝ) (k : ℝ) (nonzero : k ≠ 0) :
      Redrawn (before ++ s :: after) (before ++ ⟨s.bearing.scale k, s.center⟩ :: after)
  | permuted (sights others : List (Sight ℝ)) (same : sights.Perm others) : Redrawn sights others
  | inserted (before after : List (Sight ℝ)) (center : Vec3 ℝ) :
      Redrawn (before ++ after) (before ++ ⟨Vec3.zero, center⟩ :: after)

theorem scaled_projector (s : Sight ℝ) (k : ℝ) (nonzero : k ≠ 0) :
    (⟨s.bearing.scale k, s.center⟩ : Sight ℝ).projector.toMatrix = s.projector.toMatrix := by
  rw [projector_matrix, projector_matrix, space_get_scale, smul_dotProduct, dotProduct_smul, smul_vecMulVec,
    vecMulVec_smul, smul_smul, smul_smul, smul_eq_mul, smul_eq_mul]
  congr 2
  by_cases none : s.bearing.get ⬝ᵥ s.bearing.get = 0
  · rw [none]
    simp
  · field_simp

theorem scaled_usable (s : Sight ℝ) (k : ℝ) (nonzero : k ≠ 0) :
    (⟨s.bearing.scale k, s.center⟩ : Sight ℝ).isUsable = s.isUsable := by
  rw [usable_exact, usable_exact, decide_eq_decide, bearing_nonzero, bearing_nonzero, space_get_scale, smul_dotProduct,
    dotProduct_smul, smul_eq_mul, smul_eq_mul, ← mul_assoc]
  exact mul_pos_iff_of_pos_left (mul_self_pos.mpr nonzero)

theorem redrawn_same (sights others : List (Sight ℝ)) (change : Redrawn sights others) :
    (sights.filter Sight.isUsable).length = (others.filter Sight.isUsable).length ∧
      Triangulation.normal (sights.filter Sight.isUsable) = Triangulation.normal (others.filter Sight.isUsable) := by
  cases change with
  | scaled before after s k nonzero =>
      have usable := scaled_usable s k nonzero
      have projector := scaled_projector s k nonzero
      by_cases counted : s.isUsable = true
      · rw [counted] at usable
        refine ⟨by simp [List.filter_append, counted, usable], normal_same _ _ ?_ ?_⟩
        · simp [List.filter_append, counted, usable, projector]
        · simp [List.filter_append, counted, usable, projector]
      · rw [List.filter_append, List.filter_append, List.filter_cons_of_neg counted,
          List.filter_cons_of_neg (usable ▸ counted)]
        exact ⟨rfl, rfl⟩
  | permuted _ _ same =>
      have kept := same.filter Sight.isUsable
      exact ⟨kept.length_eq, normal_same _ _ (kept.map _).sum_eq (kept.map _).sum_eq⟩
  | inserted before after center =>
      have unusable : ¬ (⟨Vec3.zero, center⟩ : Sight ℝ).isUsable = true := by simp [usable_exact]
      rw [List.filter_append, List.filter_append, List.filter_cons_of_neg unusable]
      exact ⟨rfl, rfl⟩

theorem redrawn_triangulates [Spectral ℝ] (sights others : List (Sight ℝ))
    (changes : Relation.ReflTransGen Redrawn sights others) :
    Triangulation.ofSights others = Triangulation.ofSights sights := by
  induction changes with
  | refl => rfl
  | tail _ change ih =>
      obtain ⟨count, same⟩ := redrawn_same _ _ change
      rw [← ih, Triangulation.ofSights, Triangulation.ofSights]
      simp only [count, same]

end Redrawing

-- The sights that have a direction.
noncomputable def seenSights (bearings centers : List (Vec3 ℝ)) : List (Sight ℝ) :=
  (bearings.zipWith Sight.mk centers).filter fun s => s.bearing ≠ Vec3.zero

-- What a triangulation says of its rays.
structure SolvesLeastSquares (bearings centers : List (Vec3 ℝ)) (status : TriangulationResult ℝ) : Prop where
  few : bearings.countP (· ≠ Vec3.zero) < 2 → status = .tooFewMeasurements
  parallel : 2 ≤ bearings.countP (· ≠ Vec3.zero) → ∀ direction : Vec3 ℝ,
    (∀ b ∈ bearings, ∃ k : ℝ, b = direction.scale k) → status = .unobservable
  least : ∀ p, status = .successful p → ∀ x, x ≠ p →
    squaredDistances (seenSights bearings centers) p < squaredDistances (seenSights bearings centers) x
  common : ∀ p, status = .successful p → ∀ x, (∀ s ∈ seenSights bearings centers, x.point ∈ s.line) → p = x

theorem seen_usable (bearings centers : List (Vec3 ℝ)) :
    (bearings.zipWith Sight.mk centers).filter Sight.isUsable = seenSights bearings centers := by
  rw [seenSights]
  congr 1
  funext s
  exact usable_exact s

theorem seen_count (bearings centers : List (Vec3 ℝ)) (paired : bearings.length = centers.length) :
    (seenSights bearings centers).length = bearings.countP (· ≠ Vec3.zero) := by
  rw [seenSights, ← List.countP_eq_length_filter]
  induction bearings generalizing centers with
  | nil => rfl
  | cons b rest ih =>
      cases centers with
      | nil => cases paired
      | cons c others =>
          rw [List.zipWith_cons_cons, List.countP_cons, List.countP_cons, ih others (Nat.succ.inj paired)]

theorem seen_bearing (bearings centers : List (Vec3 ℝ)) (s : Sight ℝ) (member : s ∈ seenSights bearings centers) :
    s.bearing ∈ bearings ∧ s.bearing ≠ Vec3.zero := by
  obtain ⟨listed, direction⟩ := List.mem_filter.mp member
  rw [← List.map_uncurry_zip_eq_zipWith] at listed
  obtain ⟨⟨b, c⟩, there, rfl⟩ := List.mem_map.mp listed
  exact ⟨(List.of_mem_zip there).1, of_decide_eq_true direction⟩

theorem scale_nonzero (v : Vec3 ℝ) (k : ℝ) (some : v.scale k ≠ Vec3.zero) : k ≠ 0 ∧ v ≠ Vec3.zero := by
  rw [bearing_nonzero, space_get_scale, smul_dotProduct, dotProduct_smul, smul_eq_mul, smul_eq_mul] at some
  refine ⟨?_, (bearing_nonzero v).mpr ((self_dot_nonneg v.get).lt_of_ne' ?_)⟩
  · rintro rfl
    simp at some
  · intro none
    rw [none] at some
    simp at some

theorem sights_solve [Spectral ℝ] (exact : ExactSvd) (bearings centers : List (Vec3 ℝ))
    (paired : bearings.length = centers.length) :
    SolvesLeastSquares bearings centers (Triangulation.ofSights (bearings.zipWith Sight.mk centers)) := by
  have seen : ∀ s ∈ seenSights bearings centers, s.bearing ≠ Vec3.zero := fun s member => (seen_bearing _ _ s member).2
  have definite := normal_definite (seenSights bearings centers) seen
  have least : ∀ p, Triangulation.ofSights (bearings.zipWith Sight.mk centers) = .successful p → ∀ x, x ≠ p →
      squaredDistances (seenSights bearings centers) p < squaredDistances (seenSights bearings centers) x := by
    intro p found x other
    rw [Triangulation.ofSights, seen_usable] at found
    by_cases few : (seenSights bearings centers).length < 2
    · rw [if_pos few] at found
      cases found
    · rw [if_neg few] at found
      obtain ⟨full, solves⟩ := solve_successful exact _ definite p found
      exact normal_minimiser _ seen p x full solves other
  refine ⟨fun few => ?_, fun enough direction parallel => ?_, least, fun p found x through => ?_⟩
  · rw [← seen_count bearings centers paired] at few
    rw [Triangulation.ofSights, seen_usable]
    exact if_pos few
  · rw [← seen_count bearings centers paired] at enough
    rw [Triangulation.ofSights, seen_usable]
    refine (if_neg (Nat.not_lt.mpr enough)).trans (solve_singular exact _ definite ?_)
    have along : ∀ s ∈ seenSights bearings centers, ∃ k : ℝ, k ≠ 0 ∧ s.bearing = direction.scale k := by
      intro s member
      obtain ⟨listed, some⟩ := seen_bearing _ _ s member
      obtain ⟨k, same⟩ := parallel s.bearing listed
      exact ⟨k, (scale_nonzero direction k (same ▸ some)).1, same⟩
    obtain ⟨s, member⟩ := List.exists_mem_of_length_pos (Nat.zero_lt_of_lt enough)
    obtain ⟨k, _, same⟩ := along s member
    exact parallel_singular _ direction (scale_nonzero direction k (same ▸ seen s member)).2 along
  · by_contra apart
    have nearer := least p found x (Ne.symm apart)
    rw [on_line_distance _ x through] at nearer
    exact absurd (distances_nonneg _ p) (not_le.mpr nearer)

theorem linear_paired [Spectral ℝ] (bearings centers : List (Vec3 ℝ)) (paired : bearings.length = centers.length) :
    Triangulation.linear bearings centers = .ok (Triangulation.ofSights (bearings.zipWith Sight.mk centers)) := by
  rw [Triangulation.linear, require_bind _ _ _ paired]
  rfl

theorem linear_least_squares [Spectral ℝ] (exact : ExactSvd) (bearings centers : List (Vec3 ℝ))
    (paired : bearings.length = centers.length) :
    ∃ status, Triangulation.linear bearings centers = .ok status ∧ SolvesLeastSquares bearings centers status ∧
      ∀ bearings' centers' : List (Vec3 ℝ), bearings'.length = centers'.length →
        Relation.ReflTransGen Redrawn (bearings.zipWith Sight.mk centers) (bearings'.zipWith Sight.mk centers') →
        Triangulation.linear bearings' centers' = .ok status := by
  refine ⟨_, linear_paired bearings centers paired, sights_solve exact bearings centers paired, ?_⟩
  intro bearings' centers' same changes
  rw [linear_paired bearings' centers' same, redrawn_triangulates _ _ changes]

-- The eigenvectors of a positive semidefinite matrix decompose it.
noncomputable def eigenSvd (a : Mat 3 3 ℝ) (definite : a.toMatrix.PosSemidef) : Svd ℝ where
  left := Mat.of definite.isHermitian.eigenvectorUnitary.val
  values := Vec3.of definite.isHermitian.eigenvalues
  right := Mat.of definite.isHermitian.eigenvectorUnitary.val

theorem eigen_svd_exact (a : Mat 3 3 ℝ) (definite : a.toMatrix.PosSemidef) :
    (eigenSvd a definite).Decomposes a.toMatrix := by
  have vectors : (Mat.of definite.isHermitian.eigenvectorUnitary.val).toMatrix =
      definite.isHermitian.eigenvectorUnitary.val := matrix_of _
  have orthogonal := Matrix.mem_unitaryGroup_iff'.mp definite.isHermitian.eigenvectorUnitary.property
  have diagonalised := definite.isHermitian.spectral_theorem
  rw [Unitary.conjStarAlgAut_apply] at diagonalised
  simp only [star_eq_conjTranspose, conjTranspose_eq_transpose_of_trivial] at orthogonal diagonalised
  refine ⟨?_, ?_, ?_, ?_⟩
  · rw [eigenSvd, vectors, orthogonal]
  · rw [eigenSvd, vectors, orthogonal]
  · rw [eigenSvd, space_get_of]
    exact definite.eigenvalues_nonneg
  · rw [eigenSvd, vectors, space_get_of]
    exact diagonalised.symm

open Classical in
noncomputable def eigenSvdOf (a : Mat 3 3 ℝ) : Svd ℝ :=
  if definite : a.toMatrix.PosSemidef then eigenSvd a definite else ⟨a, Vec3.zero, a⟩

noncomputable abbrev eigenSpectral : Spectral ℝ where
  eigen a := ⟨(eigenSvdOf a).values, (eigenSvdOf a).left⟩
  svd := eigenSvdOf

theorem eigen_spectral_exact : @ExactSvd eigenSpectral := by
  intro a definite
  have chosen : eigenSvdOf a = eigenSvd a definite := dif_pos definite
  change (eigenSvdOf a).Decomposes a.toMatrix
  rw [chosen]
  exact eigen_svd_exact a definite

theorem solve_found [Spectral ℝ] (n : Triangulation.Normal ℝ) (positive : 0 < (Spectral.svd n.matrix).largest)
    (large : ∀ i, Triangulation.rankTolerance * (Spectral.svd n.matrix).largest < (Spectral.svd n.matrix).values.get i) :
    ∃ p, Triangulation.solve n = .successful p := by
  have full := (rank_full _ _).mpr large
  rw [Triangulation.solve]
  simp only [positive, not_true, if_false, if_neg full]
  exact ⟨_, rfl⟩

-- The matrix of two lines along the first two axes has the singular values one and two.
theorem crossing_values (d : Svd ℝ) (exact : d.Decomposes (diagonal ![1, 1, 2])) (i : Fin 3) :
    d.values.get i = 1 ∨ d.values.get i = 2 := by
  set r := d.right.toMatrix with right
  set v := diagonal d.values.get with values
  have across : r * rᵀ = 1 := mul_eq_one_comm.mp exact.right
  have gram : rᵀ * diagonal ![1, 1, 4] * r = v * v := by
    have square : (diagonal ![1, 1, 2])ᵀ * diagonal ![1, 1, 2] = (diagonal ![1, 1, 4] : Matrix (Fin 3) (Fin 3) ℝ) := by
      rw [diagonal_transpose, diagonal_mul_diagonal]
      congr 1
      funext i
      fin_cases i <;> norm_num
    rw [← square, ← exact.product, transpose_mul, transpose_mul, transpose_transpose, diagonal_transpose]
    calc rᵀ * (r * (v * d.left.toMatrixᵀ) * (d.left.toMatrix * v * rᵀ)) * r
        = rᵀ * r * v * (d.left.toMatrixᵀ * d.left.toMatrix) * v * (rᵀ * r) := by simp only [Matrix.mul_assoc]
      _ = v * v := by rw [exact.left, exact.right, Matrix.one_mul, Matrix.mul_one, Matrix.mul_one]
  have quadratic : v * v * (v * v) = (5 : ℝ) • (v * v) - (4 : ℝ) • 1 := by
    have four : diagonal ![1, 1, 4] * diagonal ![1, 1, 4] =
        (5 : ℝ) • diagonal ![1, 1, 4] - (4 : ℝ) • (1 : Matrix (Fin 3) (Fin 3) ℝ) := by
      ext i j
      fin_cases i <;> fin_cases j <;> norm_num [diagonal_apply, one_apply, Matrix.mul_apply, Fin.sum_univ_three]
    calc v * v * (v * v)
        = rᵀ * (diagonal ![1, 1, 4] * (r * rᵀ) * diagonal ![1, 1, 4]) * r := by
          rw [← gram]
          simp only [Matrix.mul_assoc]
      _ = (5 : ℝ) • (v * v) - (4 : ℝ) • 1 := by
          rw [across, Matrix.mul_one, four, mul_sub, sub_mul, Matrix.mul_smul, Matrix.smul_mul, gram, Matrix.mul_smul,
            Matrix.smul_mul, Matrix.mul_one, exact.right]
  have entry := congrFun (congrFun quadratic i) i
  simp only [values, diagonal_mul_diagonal, Matrix.sub_apply, Matrix.smul_apply, diagonal_apply_eq, one_apply_eq,
    smul_eq_mul] at entry
  have nonneg := exact.values i
  have roots : (d.values.get i - 1) * (d.values.get i - 2) * ((d.values.get i + 1) * (d.values.get i + 2)) = 0 := by
    linear_combination entry
  have away : (d.values.get i + 1) * (d.values.get i + 2) ≠ 0 := by positivity
  rcases mul_eq_zero.mp ((mul_eq_zero.mp roots).resolve_right away) with one | two
  · exact .inl (sub_eq_zero.mp one)
  · exact .inr (sub_eq_zero.mp two)

theorem crossing_bounds (d : Svd ℝ) (exact : d.Decomposes (diagonal ![1, 1, 2])) (i : Fin 3) :
    1 ≤ d.values.get i ∧ d.values.get i ≤ 2 := by
  rcases crossing_values d exact i with one | two
  · rw [one]
    norm_num
  · rw [two]
    norm_num

-- Two lines through one point, neither of their bearings a unit vector.
noncomputable def crossingBearings : List (Vec3 ℝ) := [⟨2, 0, 0⟩, ⟨0, -3, 0⟩]

noncomputable def crossingCenters : List (Vec3 ℝ) := [⟨5, 2, 3⟩, ⟨1, 7, 3⟩]

theorem crossing_seen :
    seenSights crossingBearings crossingCenters = [⟨⟨2, 0, 0⟩, ⟨5, 2, 3⟩⟩, ⟨⟨0, -3, 0⟩, ⟨1, 7, 3⟩⟩] := by
  simp [seenSights, crossingBearings, crossingCenters, Vec3.zero]

theorem crossing_normal :
    (Triangulation.normal (seenSights crossingBearings crossingCenters)).matrix.toMatrix = diagonal ![1, 1, 2] := by
  rw [crossing_seen, normal_matrix, List.map_cons, List.map_cons, List.map_nil, List.sum_cons, List.sum_cons,
    List.sum_nil, projector_matrix, projector_matrix]
  ext i j
  fin_cases i <;> fin_cases j <;>
    norm_num [Vec3.get, dotProduct, Fin.sum_univ_three, vecMulVec_apply, diagonal_apply, one_apply]

theorem crossing_found [Spectral ℝ] (exact : ExactSvd) :
    ∃ p, Triangulation.linear crossingBearings crossingCenters = .ok (.successful p) := by
  have definite := normal_definite (seenSights crossingBearings crossingCenters) fun s member =>
    (seen_bearing _ _ s member).2
  have decomposed := exact _ definite
  rw [crossing_normal] at decomposed
  have values := crossing_bounds _ decomposed
  set n := Triangulation.normal (seenSights crossingBearings crossingCenters)
  have above : (Spectral.svd n.matrix).largest ≤ 2 := max_le (max_le (values 0).2 (values 1).2) (values 2).2
  have below : 1 ≤ (Spectral.svd n.matrix).largest := (values 2).1.trans (le_max_right _ _)
  have tiny : Triangulation.rankTolerance * (Spectral.svd n.matrix).largest < 1 := by
    rw [rank_tolerance]
    linarith
  obtain ⟨p, found⟩ := solve_found n (zero_lt_one.trans_le below) fun i => tiny.trans_le (values i).1
  refine ⟨p, ?_⟩
  have enough : ¬ (seenSights crossingBearings crossingCenters).length < 2 := by
    rw [crossing_seen]
    exact lt_irrefl 2
  rw [linear_paired crossingBearings crossingCenters rfl, Triangulation.ofSights, seen_usable]
  simp only [if_neg enough, found, n]

theorem crossing_lines_meet :
    ∃ _ : Spectral ℝ, ExactSvd ∧
      Triangulation.linear crossingBearings crossingCenters = .ok (.successful ⟨1, 2, 3⟩) := by
  refine ⟨eigenSpectral, eigen_spectral_exact, ?_⟩
  obtain ⟨status, done, solves, _⟩ :=
    @linear_least_squares eigenSpectral eigen_spectral_exact crossingBearings crossingCenters rfl
  obtain ⟨p, found⟩ := @crossing_found eigenSpectral eigen_spectral_exact
  obtain rfl : status = .successful p := Except.ok.inj (done.symm.trans found)
  have meets : p = ⟨1, 2, 3⟩ := by
    apply solves.common p rfl
    rw [crossing_seen]
    intro s member
    rcases List.mem_cons.mp member with rfl | later
    · refine ⟨-2, ?_⟩
      ext i
      fin_cases i <;> norm_num [Vec3.point, Vec3.get]
    · rw [List.mem_singleton.mp later]
      refine ⟨5 / 3, ?_⟩
      ext i
      fin_cases i <;> norm_num [Vec3.point, Vec3.get]
  rw [done, meets]

end LandmarkMap
