import LandmarkMap.Proofs.Geometry.Bearings
import LandmarkMap.Proofs.Triangulation.MovedSights

set_option autoImplicit false

namespace LandmarkMap

open Matrix

section Bounds

variable (d : Svd ℝ) (a : Matrix (Fin 3) (Fin 3) ℝ) (exact : d.Decomposes a)

include exact

-- The matrix takes each right vector to the left one, at the length of the singular value.
theorem value_direction (j : Fin 3) : a *ᵥ d.right.toMatrixᵀ j = d.values.get j • d.left.toMatrixᵀ j := by
  have columns : a * d.right.toMatrix = d.left.toMatrix * diagonal d.values.get := by
    rw [← exact.product, Matrix.mul_assoc, exact.right, Matrix.mul_one]
  funext i
  have entry := congrFun (congrFun columns i) j
  rw [mul_diagonal] at entry
  exact entry.trans (mul_comm _ _)

theorem unit_vectors (j : Fin 3) :
    d.left.toMatrixᵀ j ⬝ᵥ d.left.toMatrixᵀ j = 1 ∧ d.right.toMatrixᵀ j ⬝ᵥ d.right.toMatrixᵀ j = 1 := by
  have left := congrFun (congrFun exact.left j) j
  have right := congrFun (congrFun exact.right j) j
  rw [one_apply_eq] at left right
  exact ⟨left, right⟩

theorem form_below_values (bound : ℝ) (form : ∀ v : Fin 3 → ℝ, bound * (v ⬝ᵥ v) ≤ v ⬝ᵥ a *ᵥ v) (j : Fin 3) :
    bound ≤ d.values.get j := by
  obtain ⟨left, right⟩ := unit_vectors d a exact j
  have below := form (d.right.toMatrixᵀ j)
  have apart := self_dot_nonneg (d.right.toMatrixᵀ j - d.left.toMatrixᵀ j)
  rw [value_direction d a exact, right, dotProduct_smul, smul_eq_mul, mul_one] at below
  rw [sub_dotProduct, dotProduct_sub, dotProduct_sub, left, right, dotProduct_comm (d.left.toMatrixᵀ j)] at apart
  calc bound ≤ d.values.get j * (d.right.toMatrixᵀ j ⬝ᵥ d.left.toMatrixᵀ j) := below
    _ ≤ d.values.get j * 1 := mul_le_mul_of_nonneg_left (by linarith) (exact.values j)
    _ = d.values.get j := mul_one _

theorem values_below_form (bound : ℝ) (form : ∀ v w : Fin 3 → ℝ, w ⬝ᵥ a *ᵥ v ≤ bound * ((w ⬝ᵥ w + v ⬝ᵥ v) / 2))
    (j : Fin 3) : d.values.get j ≤ bound := by
  obtain ⟨left, right⟩ := unit_vectors d a exact j
  have above := form (d.right.toMatrixᵀ j) (d.left.toMatrixᵀ j)
  rw [value_direction d a exact, left, right, dotProduct_smul, left, smul_eq_mul] at above
  linarith

end Bounds

section Rays

-- The direction of a sight.
noncomputable def Sight.ray (s : Sight ℝ) : Vec3 ℝ := s.bearing.divide s.bearing.norm

variable (s t : Sight ℝ) (v w : Fin 3 → ℝ)

theorem projector_ray : s.projector.toMatrix *ᵥ v = v - (s.ray.get ⬝ᵥ v) • s.ray.get := by
  have outer : (s.ray.outer s.ray).toMatrix = vecMulVec s.ray.get s.ray.get := matrix_of _
  have whole : s.projector.toMatrix = 1 - vecMulVec s.ray.get s.ray.get := by
    rw [← outer, ← matrix_identity, ← matrix_sub]
    rfl
  rw [whole, sub_mulVec, one_mulVec, vecMulVec_mulVec, op_smul_eq_smul]

theorem projector_form : v ⬝ᵥ s.projector.toMatrix *ᵥ v = v ⬝ᵥ v - (s.ray.get ⬝ᵥ v) ^ 2 := by
  rw [projector_ray, dotProduct_sub, dotProduct_smul, smul_eq_mul, dotProduct_comm v s.ray.get, sq]

-- What is left of a vector beside a ray is no longer than the vector.
theorem projector_short (seen : s.bearing ≠ Vec3.zero) :
    w ⬝ᵥ s.projector.toMatrix *ᵥ v ≤ (w ⬝ᵥ w + v ⬝ᵥ v) / 2 := by
  have apart := (projector_definite s seen).dotProduct_mulVec_nonneg (w - v)
  rw [star_trivial, mulVec_sub, sub_dotProduct, dotProduct_sub, dotProduct_sub, projector_form, projector_form] at apart
  have swap : v ⬝ᵥ s.projector.toMatrix *ᵥ w = w ⬝ᵥ s.projector.toMatrix *ᵥ v := by
    rw [dotProduct_mulVec, ← mulVec_transpose, projector_symmetric, dotProduct_comm]
  rw [swap] at apart
  nlinarith [sq_nonneg (s.ray.get ⬝ᵥ w), sq_nonneg (s.ray.get ⬝ᵥ v)]

theorem ray_whole (seen : s.bearing ≠ Vec3.zero) : s.ray.get ⬝ᵥ s.ray.get = 1 := by
  rw [← space_dot]
  exact unit_divide s.bearing (space_norm_positive _ seen)

theorem dot_bound : (v ⬝ᵥ w) ^ 2 ≤ (v ⬝ᵥ v) * (w ⬝ᵥ w) := by
  have bound := Finset.sum_mul_sq_le_sq_mul_sq Finset.univ v w
  simp only [sq (v _), sq (w _)] at bound
  exact bound

-- No vector is close to two rays that are apart.
theorem rays_apart (seen : s.bearing ≠ Vec3.zero) (other : t.bearing ≠ Vec3.zero) :
    (1 - |s.ray.dot t.ray|) * (v ⬝ᵥ v) ≤ v ⬝ᵥ s.projector.toMatrix *ᵥ v + v ⬝ᵥ t.projector.toMatrix *ᵥ v := by
  have first := ray_whole s seen
  have second := ray_whole t other
  rw [projector_form, projector_form, space_dot]
  set x := s.ray.get ⬝ᵥ v
  set y := t.ray.get ⬝ᵥ v
  set cosine := s.ray.get ⬝ᵥ t.ray.get
  have shadow : (x ^ 2 + y ^ 2) ^ 2 ≤ (v ⬝ᵥ v) * (x ^ 2 + y ^ 2 + cosine * (2 * x * y)) := by
    have bound := dot_bound v (x • s.ray.get + y • t.ray.get)
    simp only [dotProduct_add, add_dotProduct, dotProduct_smul, smul_dotProduct, smul_eq_mul, first, second,
      dotProduct_comm v, dotProduct_comm t.ray.get s.ray.get] at bound
    change (x * x + y * y) ^ 2 ≤ (v ⬝ᵥ v) * (x * (x * 1 + y * cosine) + y * (x * cosine + y * 1)) at bound
    calc (x ^ 2 + y ^ 2) ^ 2 = (x * x + y * y) ^ 2 := by ring
      _ ≤ _ := bound
      _ = (v ⬝ᵥ v) * (x ^ 2 + y ^ 2 + cosine * (2 * x * y)) := by ring
  have cross : cosine * (2 * x * y) ≤ |cosine| * (x ^ 2 + y ^ 2) := by
    have mixed : |2 * x * y| ≤ x ^ 2 + y ^ 2 := abs_le.mpr ⟨by nlinarith [sq_nonneg (x + y)], two_mul_le_add_sq x y⟩
    calc cosine * (2 * x * y) ≤ |cosine * (2 * x * y)| := le_abs_self _
      _ = |cosine| * |2 * x * y| := abs_mul _ _
      _ ≤ |cosine| * (x ^ 2 + y ^ 2) := mul_le_mul_of_nonneg_left mixed (abs_nonneg _)
  have length := self_dot_nonneg v
  have close : x ^ 2 + y ^ 2 ≤ (1 + |cosine|) * (v ⬝ᵥ v) := by
    by_contra above
    rw [not_le] at above
    have positive : 0 < x ^ 2 + y ^ 2 := lt_of_le_of_lt (mul_nonneg (by positivity) length) above
    have square := mul_lt_mul_of_pos_right above positive
    nlinarith [mul_le_mul_of_nonneg_left cross length]
  linarith

end Rays

section Normal

variable (sights : List (Sight ℝ)) (seen : ∀ s ∈ sights, s.bearing ≠ Vec3.zero)

include seen

theorem normal_short (v w : Fin 3 → ℝ) :
    w ⬝ᵥ (Triangulation.normal sights).matrix.toMatrix *ᵥ v ≤ sights.length * ((w ⬝ᵥ w + v ⬝ᵥ v) / 2) := by
  rw [normal_matrix]
  induction sights with
  | nil => simp
  | cons s rest ih =>
      have first := projector_short s v w (seen s List.mem_cons_self)
      have others := ih fun s later => seen s (List.mem_cons_of_mem _ later)
      rw [List.map_cons, List.sum_cons, add_mulVec, dotProduct_add, List.length_cons, Nat.cast_succ]
      linarith

omit seen in
theorem normal_form (v : Fin 3 → ℝ) :
    v ⬝ᵥ (Triangulation.normal sights).matrix.toMatrix *ᵥ v =
      (sights.map fun s => v ⬝ᵥ s.projector.toMatrix *ᵥ v).sum := by
  rw [normal_matrix]
  induction sights with
  | nil => simp
  | cons s rest ih => rw [List.map_cons, List.sum_cons, add_mulVec, dotProduct_add, ih, List.map_cons, List.sum_cons]

theorem normal_pair (s t : Sight ℝ) (pair : [s, t].Sublist sights) (v : Fin 3 → ℝ) :
    v ⬝ᵥ s.projector.toMatrix *ᵥ v + v ⬝ᵥ t.projector.toMatrix *ᵥ v ≤
      v ⬝ᵥ (Triangulation.normal sights).matrix.toMatrix *ᵥ v := by
  have sum := (pair.map fun s => v ⬝ᵥ s.projector.toMatrix *ᵥ v).sum_le_sum fun term member => by
    obtain ⟨s, there, rfl⟩ := List.mem_map.mp member
    exact (projector_definite s (seen s there)).dotProduct_mulVec_nonneg v
  rw [normal_form]
  simpa using sum

-- Two rays at an angle keep the singular values together.
theorem apart_gap (s t : Sight ℝ) (pair : [s, t].Sublist sights)
    (apart : 1e-10 * sights.length < 1 - |s.ray.dot t.ray|) (d : Svd ℝ)
    (exact : d.Decomposes (Triangulation.normal sights).matrix.toMatrix) (i j : Fin 3) :
    1e-10 * d.values.get i < d.values.get j := by
  have above := values_below_form d _ exact sights.length (normal_short sights seen) i
  have below := form_below_values d _ exact (1 - |s.ray.dot t.ray|) (fun v =>
    (rays_apart s t v (seen s (pair.subset (by simp))) (seen t (pair.subset (by simp)))).trans
      (normal_pair sights seen s t pair v)) j
  calc 1e-10 * d.values.get i ≤ 1e-10 * sights.length := mul_le_mul_of_nonneg_left above (by norm_num)
    _ < 1 - |s.ray.dot t.ray| := apart
    _ ≤ d.values.get j := below

end Normal

-- A point that was found is found by singular values that are close together.
theorem found_gap [Spectral ℝ] (exact : ExactSvd) (n : Triangulation.Normal ℝ) (definite : n.matrix.toMatrix.PosSemidef)
    (d : Svd ℝ) (decomposes : d.Decomposes n.matrix.toMatrix) (p : Vec3 ℝ) (found : Triangulation.solve n = .successful p)
    (i j : Fin 3) : 1e-10 * d.values.get i < d.values.get j := by
  have same := values_unique (Spectral.svd n.matrix) d _ (exact n.matrix definite) decomposes
  have full : ∀ i, Triangulation.rankTolerance * (Spectral.svd n.matrix).largest < (Spectral.svd n.matrix).values.get i := by
    by_contra lost
    rw [← rank_full] at lost
    cases (solve_deficient n fun enough => lost enough.2).symm.trans found
  have listed : ∀ i, d.values.get i ∈ (Spectral.svd n.matrix).values.toList := fun i =>
    same.mem_iff.mp ((values_listed _ _).mpr ⟨i, rfl⟩)
  obtain ⟨k, high⟩ := (values_listed _ _).mp (listed j)
  calc 1e-10 * d.values.get i ≤ 1e-10 * (Spectral.svd n.matrix).largest :=
        mul_le_mul_of_nonneg_left ((largest_bound _ _).mp le_rfl _ (listed i)) (by norm_num)
    _ < (Spectral.svd n.matrix).values.get k := full k
    _ = d.values.get j := high

end LandmarkMap
