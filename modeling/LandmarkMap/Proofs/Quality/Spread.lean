import Mathlib.Geometry.Euclidean.Angle.Unoriented.Affine
import LandmarkMap.Proofs.Geometry.Bearings
import LandmarkMap.Proofs.Quality.TurnedRays
import LandmarkMap.Proofs.Triangulation.Lines

set_option autoImplicit false

namespace LandmarkMap

section Points

variable (v w : Vec3 ℝ)

theorem inner_point : inner ℝ v.point w.point = v.dot w := by
  rw [EuclideanSpace.inner_eq_star_dotProduct, space_dot, dotProduct_comm]
  rfl

theorem norm_point : ‖v.point‖ = v.norm := by
  rw [Vec3.norm, Vec3.normSq, ← inner_point, real_inner_self_eq_norm_sq, real_sqrt, Real.sqrt_sq (norm_nonneg _)]

theorem point_difference : (v - w).point = v.point - w.point := by
  rw [Vec3.point, space_get_sub]
  rfl

theorem point_distance : dist v.point w.point = (v - w).norm := by
  rw [dist_eq_norm, ← point_difference, norm_point]

-- Sine and cosine of the angle between two rays, both longer than they are by the product of the lengths.
noncomputable def turnBetween : ℂ := ⟨v.dot w, (v.cross w).norm⟩

theorem turn_length : ‖turnBetween v w‖ = v.norm * w.norm := by
  have area : (v.cross w).norm * (v.cross w).norm = v.dot v * w.dot w - v.dot w ^ 2 := by
    rw [norm_squared, cross_norm]
  have lengths : v.norm * v.norm = v.dot v ∧ w.norm * w.norm = w.dot w := ⟨norm_squared v, norm_squared w⟩
  have square : ‖turnBetween v w‖ ^ 2 = (v.norm * w.norm) ^ 2 := by
    rw [Complex.sq_norm, turnBetween, Complex.normSq_mk, area, mul_pow, sq v.norm, sq w.norm, lengths.1, lengths.2]
    ring
  exact (sq_eq_sq₀ (norm_nonneg _) (mul_nonneg (Real.sqrt_nonneg _) (Real.sqrt_nonneg _))).mp square

-- The case that is set apart is the one in which there is no turn, and the angle is zero as well.
theorem angle_argument : Rays.angle v w = Complex.arg (turnBetween v w) := by
  rw [Rays.angle]
  split_ifs with nowhere
  · obtain ⟨sine, cosine⟩ := (Bool.and_eq_true _ _).mp nowhere
    have none : turnBetween v w = 0 := Complex.ext (of_decide_eq_true cosine) (of_decide_eq_true sine)
    rw [none, Complex.arg_zero]
  · rfl

-- Of rays that have a direction, the arc tangent finds the angle that the arc cosine defines.
theorem ray_angle (first : v.norm ≠ 0) (second : w.norm ≠ 0) :
    Rays.angle v w = InnerProductGeometry.angle v.point w.point := by
  have turned : turnBetween v w ≠ 0 := by
    rw [← norm_ne_zero_iff, turn_length]
    exact mul_ne_zero first second
  rw [angle_argument, Complex.arg_of_im_nonneg_of_ne_zero (Real.sqrt_nonneg _) turned, turn_length,
    InnerProductGeometry.angle, inner_point, norm_point, norm_point]
  rfl

end Points

section Pairs

variable (ray : Vec3 ℝ) (rays : List (Vec3 ℝ)) (widest top : ℝ)

theorem widest_from_bound :
    Rays.widestFrom ray rays widest ≤ top ↔ widest ≤ top ∧ ∀ other ∈ rays, Rays.angle ray other ≤ top := by
  rw [Rays.widestFrom]
  induction rays generalizing widest with
  | nil => simp
  | cons other rest ih =>
      rw [List.foldl_cons, ih, real_max, max_le_iff, List.forall_mem_cons, and_assoc]

theorem widest_above_bound :
    Rays.widestAbove rays widest ≤ top ↔ widest ≤ top ∧ rays.Pairwise fun a b => Rays.angle a b ≤ top := by
  induction rays generalizing widest with
  | nil => simp [Rays.widestAbove]
  | cons ray rest ih => rw [Rays.widestAbove, ih, widest_from_bound, List.pairwise_cons, and_assoc]

theorem widest_from_reached :
    Rays.widestFrom ray rays widest = widest ∨ ∃ other ∈ rays, Rays.widestFrom ray rays widest = Rays.angle ray other := by
  rw [Rays.widestFrom]
  induction rays generalizing widest with
  | nil => exact .inl rfl
  | cons other rest ih =>
      rw [List.foldl_cons]
      rcases ih (Scalar.max widest (Rays.angle ray other)) with same | ⟨later, member, same⟩
      · rw [same, real_max]
        rcases max_choice widest (Rays.angle ray other) with old | new
        · exact .inl old
        · exact .inr ⟨other, List.mem_cons_self, new⟩
      · exact .inr ⟨later, List.mem_cons_of_mem other member, same⟩

theorem widest_above_reached :
    Rays.widestAbove rays widest = widest ∨
      ∃ a b, [a, b].Sublist rays ∧ Rays.widestAbove rays widest = Rays.angle a b := by
  induction rays generalizing widest with
  | nil => exact .inl rfl
  | cons ray rest ih =>
      rw [Rays.widestAbove]
      rcases ih (Rays.widestFrom ray rest widest) with same | ⟨a, b, pair, same⟩
      · rw [same]
        rcases widest_from_reached ray rest widest with old | ⟨other, member, new⟩
        · exact .inl old
        · exact .inr ⟨ray, other, (List.singleton_sublist.mpr member).cons_cons ray, new⟩
      · exact .inr ⟨a, b, pair.cons ray, same⟩

end Pairs

end LandmarkMap
