import Mathlib.Analysis.InnerProductSpace.PiL2
import LandmarkMap.Proofs.Exact.Matrices

set_option autoImplicit false

namespace LandmarkMap

open Matrix

def Vec2.point (v : Vec2 ℝ) : EuclideanSpace ℝ (Fin 2) := WithLp.toLp 2 v.get

-- The image of a point of the plane under a matrix of the plane.
def Mat.actInPlane (a : Mat 2 2 ℝ) (v : Vec2 ℝ) : Vec2 ℝ := Vec2.of (a.toMatrix *ᵥ v.get)

theorem plane_ext (v w : Vec2 ℝ) (same : v.point = w.point) : v = w := by
  have coordinates : v.get = w.get := congrArg WithLp.ofLp same
  rw [← plane_of_get v, coordinates, plane_of_get]

section Points

variable (v w : Vec2 ℝ) (s : ℝ)

@[simp] theorem plane_point_sub : (v - w).point = v.point - w.point := by
  rw [Vec2.point, plane_get_sub]
  rfl

@[simp] theorem plane_point_scale : (v.scale s).point = s • v.point := by
  rw [Vec2.point, plane_get_scale]
  rfl

theorem plane_dot : v.dot w = inner ℝ v.point w.point := by
  rw [EuclideanSpace.inner_eq_star_dotProduct, dotProduct, Fin.sum_univ_two]
  simp [Vec2.dot, Vec2.point, Vec2.get, mul_comm]

theorem plane_norm_squared : v.normSq = ‖v.point‖ ^ 2 := by
  rw [Vec2.normSq, plane_dot, real_inner_self_eq_norm_sq]

theorem plane_norm : v.norm = ‖v.point‖ := by
  rw [Vec2.norm, plane_norm_squared, real_sqrt, Real.sqrt_sq (norm_nonneg _)]

theorem plane_nonneg : 0 ≤ v.norm := by
  rw [plane_norm]
  exact norm_nonneg _

theorem plane_triangle : v.norm ≤ w.norm + (v - w).norm := by
  simp only [plane_norm, plane_point_sub]
  exact norm_le_norm_add_norm_sub' _ _

theorem norm_flip : (v - w).norm = (w - v).norm := by
  rw [plane_norm, plane_norm, plane_point_sub, plane_point_sub, norm_sub_rev]

theorem plane_coordinates : |v.x| ≤ v.norm ∧ |v.y| ≤ v.norm := by
  rw [plane_norm]
  exact ⟨PiLp.norm_apply_le v.point 0, PiLp.norm_apply_le v.point 1⟩

end Points

theorem axis_norm (x : ℝ) (positive : 0 ≤ x) : (⟨x, 0⟩ : Vec2 ℝ).norm = x := by
  have square : (⟨x, 0⟩ : Vec2 ℝ).normSq = x ^ 2 := by
    rw [Vec2.normSq, Vec2.dot]
    ring
  rw [Vec2.norm, square, real_sqrt, Real.sqrt_sq positive]

theorem plane_point_of (f : Fin 2 → ℝ) : (Vec2.of f).point = WithLp.toLp 2 f := by
  rw [Vec2.point, plane_get_of]

theorem act_in_plane_sub (a : Mat 2 2 ℝ) (v w : Vec2 ℝ) :
    a.actInPlane (v - w) = a.actInPlane v - a.actInPlane w := by
  apply plane_ext
  rw [plane_point_sub, Mat.actInPlane, Mat.actInPlane, Mat.actInPlane, plane_point_of, plane_point_of, plane_point_of,
    plane_get_sub, mulVec_sub, WithLp.toLp_sub]

-- A matrix that shrinks no direction to nothing can be inverted.
theorem stretching_regular (a : Mat 2 2 ℝ) (stretch : ℝ) (some : 0 < stretch)
    (stretches : ∀ v, stretch * v.norm ≤ (a.actInPlane v).norm) : a.toMatrix.det ≠ 0 := by
  intro singular
  obtain ⟨v, nonzero, lost⟩ := Matrix.exists_mulVec_eq_zero_iff.mpr singular
  have image := stretches (Vec2.of v)
  rw [Mat.actInPlane, plane_get_of, lost, plane_norm, plane_norm, plane_point_of, plane_point_of, WithLp.toLp_zero,
    norm_zero] at image
  have length : 0 < ‖WithLp.toLp 2 v‖ := norm_pos_iff.mpr fun none => nonzero (by simpa using none)
  nlinarith

end LandmarkMap
