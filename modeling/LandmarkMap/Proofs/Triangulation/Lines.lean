import Mathlib.Analysis.InnerProductSpace.PiL2
import Mathlib.Analysis.Matrix.Order
import Mathlib.Topology.MetricSpace.HausdorffDistance
import LandmarkMap.Triangulation.Linear
import LandmarkMap.Proofs.Exact.Matrices

set_option autoImplicit false

namespace LandmarkMap

open Matrix

theorem self_dot_nonneg (v : Fin 3 → ℝ) : 0 ≤ v ⬝ᵥ v := Finset.sum_nonneg fun i _ => mul_self_nonneg (v i)

theorem bearing_nonzero (v : Vec3 ℝ) : v ≠ Vec3.zero ↔ 0 < v.get ⬝ᵥ v.get := by
  rw [(self_dot_nonneg v.get).lt_iff_ne', ne_eq, ne_eq, dotProduct_self_eq_zero, ← space_get_zero]
  exact not_congr ⟨congrArg Vec3.get, space_ext v Vec3.zero⟩

-- In exact arithmetic a sight counts unless its bearing is zero.
theorem usable_exact (s : Sight ℝ) : s.isUsable = decide (s.bearing ≠ Vec3.zero) := by
  have length : 0 < s.bearing.norm ↔ s.bearing ≠ Vec3.zero := by
    rw [bearing_nonzero, ← space_dot]
    exact Real.sqrt_pos
  have finite : s.isUsable = decide (0 < s.bearing.norm) := (Bool.and_true _).trans (Bool.and_true _)
  rw [finite, decide_eq_decide]
  exact length

theorem usable_seen (sights : List (Sight ℝ)) : ∀ s ∈ sights.filter Sight.isUsable, s.bearing ≠ Vec3.zero := by
  intro s member
  have counted := (List.mem_filter.mp member).2
  rw [usable_exact] at counted
  exact of_decide_eq_true counted

-- The projection of a bearing by its coordinates; the root of the length cancels out.
theorem projector_matrix (s : Sight ℝ) :
    s.projector.toMatrix =
      1 - (s.bearing.get ⬝ᵥ s.bearing.get)⁻¹ • vecMulVec s.bearing.get s.bearing.get := by
  have square : s.bearing.norm * s.bearing.norm = s.bearing.get ⬝ᵥ s.bearing.get := by
    rw [← space_dot]
    refine Real.mul_self_sqrt ?_
    rw [Vec3.normSq, space_dot]
    exact self_dot_nonneg _
  have outer : ((s.bearing.divide s.bearing.norm).outer (s.bearing.divide s.bearing.norm)).toMatrix =
      (s.bearing.get ⬝ᵥ s.bearing.get)⁻¹ • vecMulVec s.bearing.get s.bearing.get := by
    ext i j
    rw [Vec3.outer, matrix_of, Matrix.of_apply, space_get_divide, ← square]
    simp only [Pi.smul_apply, smul_eq_mul, Matrix.smul_apply, vecMulVec_apply, mul_inv]
    ring
  rw [Sight.projector, matrix_sub, matrix_identity, outer]

theorem projector_act (s : Sight ℝ) (v : Fin 3 → ℝ) :
    s.projector.toMatrix *ᵥ v =
      v - ((s.bearing.get ⬝ᵥ s.bearing.get)⁻¹ * (s.bearing.get ⬝ᵥ v)) • s.bearing.get := by
  rw [projector_matrix, sub_mulVec, one_mulVec, smul_mulVec, vecMulVec_mulVec, op_smul_eq_smul, smul_smul]

theorem projector_symmetric (s : Sight ℝ) : s.projector.toMatrixᵀ = s.projector.toMatrix := by
  rw [projector_matrix, transpose_sub, transpose_one, transpose_smul, transpose_vecMulVec]

def Vec3.point (v : Vec3 ℝ) : EuclideanSpace ℝ (Fin 3) := WithLp.toLp 2 v.get

-- The line through the center along the bearing, to both sides.
def Sight.line (s : Sight ℝ) : Set (EuclideanSpace ℝ (Fin 3)) :=
  Set.range fun t : ℝ => s.center.point + t • s.bearing.point

-- What a sight adds to the cost of a point, by its projection.
noncomputable def Sight.misfit (s : Sight ℝ) (x : Vec3 ℝ) : ℝ :=
  (x.get - s.center.get) ⬝ᵥ s.projector.toMatrix *ᵥ (x.get - s.center.get)

theorem distance_to_point (s : Sight ℝ) (seen : s.bearing ≠ Vec3.zero) (x : Vec3 ℝ) (t : ℝ) :
    dist x.point (s.center.point + t • s.bearing.point) ^ 2 =
      s.misfit x + (s.bearing.get ⬝ᵥ s.bearing.get) *
        (t - (s.bearing.get ⬝ᵥ s.bearing.get)⁻¹ * (s.bearing.get ⬝ᵥ (x.get - s.center.get))) ^ 2 := by
  have length : s.bearing.get ⬝ᵥ s.bearing.get ≠ 0 := ((bearing_nonzero _).mp seen).ne'
  have offset : dist x.point (s.center.point + t • s.bearing.point) ^ 2 =
      (x.get - s.center.get - t • s.bearing.get) ⬝ᵥ (x.get - s.center.get - t • s.bearing.get) := by
    rw [dist_eq_norm, EuclideanSpace.real_norm_sq_eq, dotProduct]
    apply Finset.sum_congr rfl
    intro i _
    simp only [Vec3.point, WithLp.ofLp_sub, WithLp.ofLp_add, WithLp.ofLp_smul, Pi.sub_apply, Pi.add_apply, Pi.smul_apply]
    ring
  rw [offset, Sight.misfit, projector_act]
  generalize x.get - s.center.get = o
  simp only [sub_dotProduct, dotProduct_sub, smul_dotProduct, dotProduct_smul, smul_eq_mul,
    dotProduct_comm o s.bearing.get]
  field_simp
  ring

theorem line_distance (s : Sight ℝ) (seen : s.bearing ≠ Vec3.zero) (x : Vec3 ℝ) :
    Metric.infDist x.point s.line ^ 2 = s.misfit x := by
  have length := (bearing_nonzero _).mp seen
  set nearest := (s.bearing.get ⬝ᵥ s.bearing.get)⁻¹ * (s.bearing.get ⬝ᵥ (x.get - s.center.get)) with foot
  have reached : dist x.point (s.center.point + nearest • s.bearing.point) ^ 2 = s.misfit x := by
    rw [distance_to_point s seen, ← foot, sub_self, zero_pow two_ne_zero, mul_zero, add_zero]
  have infimum : Metric.infDist x.point s.line = dist x.point (s.center.point + nearest • s.bearing.point) := by
    apply le_antisymm
    · exact Metric.infDist_le_dist_of_mem ⟨nearest, rfl⟩
    · refine (Metric.le_infDist (Set.range_nonempty _)).mpr ?_
      rintro _ ⟨t, rfl⟩
      refine (sq_le_sq₀ dist_nonneg dist_nonneg).mp ?_
      rw [reached, distance_to_point s seen x t]
      exact le_add_of_nonneg_right (mul_nonneg length.le (sq_nonneg _))
  rw [infimum, reached]

theorem fold_normal (sights : List (Sight ℝ)) (n : Triangulation.Normal ℝ) :
    let sum := sights.foldl (fun n s => ⟨n.matrix + s.projector, n.rhs + s.projector.act s.center⟩) n
    sum.matrix.toMatrix = n.matrix.toMatrix + (sights.map fun s => s.projector.toMatrix).sum ∧
      sum.rhs.get = n.rhs.get + (sights.map fun s => s.projector.toMatrix *ᵥ s.center.get).sum := by
  induction sights generalizing n with
  | nil => exact ⟨(add_zero _).symm, (add_zero _).symm⟩
  | cons s rest ih =>
      have later := ih ⟨n.matrix + s.projector, n.rhs + s.projector.act s.center⟩
      simp only [matrix_add, space_get_add, act_get] at later
      rw [List.foldl_cons, List.map_cons, List.map_cons, List.sum_cons, List.sum_cons, ← add_assoc, ← add_assoc]
      exact later

theorem normal_matrix (sights : List (Sight ℝ)) :
    (Triangulation.normal sights).matrix.toMatrix = (sights.map fun s => s.projector.toMatrix).sum := by
  have total := (fold_normal sights ⟨Mat.zero, Vec3.zero⟩).1
  rwa [matrix_zero, zero_add] at total

theorem normal_rhs (sights : List (Sight ℝ)) :
    (Triangulation.normal sights).rhs.get = (sights.map fun s => s.projector.toMatrix *ᵥ s.center.get).sum := by
  have total := (fold_normal sights ⟨Mat.zero, Vec3.zero⟩).2
  rwa [space_get_zero, zero_add] at total

theorem normal_same (sights others : List (Sight ℝ))
    (matrices : (sights.map fun s => s.projector.toMatrix).sum = (others.map fun s => s.projector.toMatrix).sum)
    (rhs : (sights.map fun s => s.projector.toMatrix *ᵥ s.center.get).sum =
      (others.map fun s => s.projector.toMatrix *ᵥ s.center.get).sum) :
    Triangulation.normal sights = Triangulation.normal others := by
  have first : (Triangulation.normal sights).matrix = (Triangulation.normal others).matrix := by
    apply matrix_ext
    rw [normal_matrix, normal_matrix, matrices]
  have second : (Triangulation.normal sights).rhs = (Triangulation.normal others).rhs := by
    apply space_ext
    rw [normal_rhs, normal_rhs, rhs]
  calc Triangulation.normal sights
      = ⟨(Triangulation.normal sights).matrix, (Triangulation.normal sights).rhs⟩ := rfl
    _ = ⟨(Triangulation.normal others).matrix, (Triangulation.normal others).rhs⟩ := by rw [first, second]

-- The sum of the squared distances from a point to the lines.
noncomputable def squaredDistances (sights : List (Sight ℝ)) (x : Vec3 ℝ) : ℝ :=
  (sights.map fun s => Metric.infDist x.point s.line ^ 2).sum

theorem distances_nonneg (sights : List (Sight ℝ)) (x : Vec3 ℝ) : 0 ≤ squaredDistances sights x := by
  apply List.sum_nonneg
  intro term member
  obtain ⟨s, _, rfl⟩ := List.mem_map.mp member
  exact sq_nonneg _

-- The cost is quadratic: about any point, the residual of the normal equations is its slope and
-- the normal matrix its curvature.
theorem distances_expand (sights : List (Sight ℝ)) (seen : ∀ s ∈ sights, s.bearing ≠ Vec3.zero) (p x : Vec3 ℝ) :
    squaredDistances sights x = squaredDistances sights p +
      2 * ((x.get - p.get) ⬝ᵥ ((Triangulation.normal sights).matrix.toMatrix *ᵥ p.get - (Triangulation.normal sights).rhs.get)) +
      (x.get - p.get) ⬝ᵥ (Triangulation.normal sights).matrix.toMatrix *ᵥ (x.get - p.get) := by
  rw [normal_matrix, normal_rhs]
  induction sights with
  | nil => simp [squaredDistances]
  | cons s rest ih =>
      have one : s.misfit x = s.misfit p +
          2 * ((x.get - p.get) ⬝ᵥ (s.projector.toMatrix *ᵥ p.get - s.projector.toMatrix *ᵥ s.center.get)) +
          (x.get - p.get) ⬝ᵥ s.projector.toMatrix *ᵥ (x.get - p.get) := by
        have swap : ∀ v w : Fin 3 → ℝ, v ⬝ᵥ s.projector.toMatrix *ᵥ w = w ⬝ᵥ s.projector.toMatrix *ᵥ v := by
          intro v w
          rw [dotProduct_mulVec, ← mulVec_transpose, projector_symmetric, dotProduct_comm]
        rw [Sight.misfit, Sight.misfit, ← mulVec_sub]
        generalize s.projector.toMatrix = m at swap
        rw [show x.get - s.center.get = (x.get - p.get) + (p.get - s.center.get) by abel]
        rw [mulVec_add, add_dotProduct, dotProduct_add, dotProduct_add, swap (p.get - s.center.get) (x.get - p.get)]
        ring
      have others := ih fun s later => seen s (List.mem_cons_of_mem _ later)
      simp only [squaredDistances, List.map_cons, List.sum_cons, add_mulVec, dotProduct_add, dotProduct_sub,
        line_distance s (seen s List.mem_cons_self)] at others one ⊢
      rw [one, others]
      ring

-- As a quadratic form, a projection gives squared distances to a line through the origin.
theorem projector_definite (s : Sight ℝ) (seen : s.bearing ≠ Vec3.zero) : s.projector.toMatrix.PosSemidef := by
  refine posSemidef_iff_dotProduct_mulVec.mpr ⟨projector_symmetric s, fun v => ?_⟩
  have distance := line_distance ⟨s.bearing, Vec3.zero⟩ seen (Vec3.of v)
  rw [Sight.misfit, space_get_of, space_get_zero, sub_zero] at distance
  have nonneg : 0 ≤ v ⬝ᵥ s.projector.toMatrix *ᵥ v := distance ▸ sq_nonneg _
  exact nonneg

theorem normal_definite (sights : List (Sight ℝ)) (seen : ∀ s ∈ sights, s.bearing ≠ Vec3.zero) :
    (Triangulation.normal sights).matrix.toMatrix.PosSemidef := by
  rw [normal_matrix]
  induction sights with
  | nil => exact Matrix.PosSemidef.zero
  | cons s rest ih =>
      rw [List.map_cons, List.sum_cons]
      exact (projector_definite s (seen s List.mem_cons_self)).add
        (ih fun s later => seen s (List.mem_cons_of_mem _ later))

-- What solves the normal equations, if they determine a point at all, is nearer to the lines than
-- any other point.
theorem normal_minimiser (sights : List (Sight ℝ)) (seen : ∀ s ∈ sights, s.bearing ≠ Vec3.zero) (p x : Vec3 ℝ)
    (full : IsUnit (Triangulation.normal sights).matrix.toMatrix)
    (solves : (Triangulation.normal sights).matrix.toMatrix *ᵥ p.get = (Triangulation.normal sights).rhs.get)
    (other : x ≠ p) : squaredDistances sights p < squaredDistances sights x := by
  have definite := (normal_definite sights seen).posDef_iff_isUnit.mpr full
  have apart : x.get - p.get ≠ 0 := fun same => other (space_ext x p (sub_eq_zero.mp same))
  have curved := definite.dotProduct_mulVec_pos apart
  rw [star_trivial] at curved
  rw [distances_expand sights seen p x, solves, sub_self, dotProduct_zero, mul_zero, add_zero]
  exact lt_add_of_pos_right _ curved

theorem on_line_distance (sights : List (Sight ℝ)) (x : Vec3 ℝ) (through : ∀ s ∈ sights, x.point ∈ s.line) :
    squaredDistances sights x = 0 := by
  apply List.sum_eq_zero
  intro term member
  obtain ⟨s, there, rfl⟩ := List.mem_map.mp member
  rw [Metric.infDist_zero_of_mem (through s there), zero_pow two_ne_zero]

theorem projector_flat (s : Sight ℝ) (direction : Vec3 ℝ) (k : ℝ) (some : direction ≠ Vec3.zero) (nonzero : k ≠ 0)
    (along : s.bearing = direction.scale k) : s.projector.toMatrix *ᵥ direction.get = 0 := by
  have length : direction.get ⬝ᵥ direction.get ≠ 0 := ((bearing_nonzero _).mp some).ne'
  rw [projector_act, along, space_get_scale, smul_dotProduct, smul_dotProduct, dotProduct_smul, smul_smul, smul_eq_mul]
  have whole : (k * (k * (direction.get ⬝ᵥ direction.get)))⁻¹ * (k * (direction.get ⬝ᵥ direction.get)) * k = 1 := by
    field_simp
  exact sub_eq_zero.mpr ((congrArg (· • direction.get) whole).trans (one_smul ℝ _)).symm

-- Along a common direction of all lines the normal matrix is flat.
theorem normal_flat (sights : List (Sight ℝ)) (direction : Vec3 ℝ) (some : direction ≠ Vec3.zero)
    (parallel : ∀ s ∈ sights, ∃ k : ℝ, k ≠ 0 ∧ s.bearing = direction.scale k) :
    (Triangulation.normal sights).matrix.toMatrix *ᵥ direction.get = 0 := by
  rw [normal_matrix]
  induction sights with
  | nil => exact zero_mulVec _
  | cons s rest ih =>
      obtain ⟨k, nonzero, along⟩ := parallel s List.mem_cons_self
      rw [List.map_cons, List.sum_cons, add_mulVec, projector_flat s direction k some nonzero along,
        ih fun s later => parallel s (List.mem_cons_of_mem _ later), add_zero]

theorem parallel_singular (sights : List (Sight ℝ)) (direction : Vec3 ℝ) (some : direction ≠ Vec3.zero)
    (parallel : ∀ s ∈ sights, ∃ k : ℝ, k ≠ 0 ∧ s.bearing = direction.scale k) :
    ¬ IsUnit (Triangulation.normal sights).matrix.toMatrix := by
  intro full
  have flat := normal_flat sights direction some parallel
  rw [← mulVec_zero (Triangulation.normal sights).matrix.toMatrix] at flat
  have none := mulVec_injective_of_isUnit full flat
  exact some (space_ext direction Vec3.zero (none.trans space_get_zero.symm))

end LandmarkMap
