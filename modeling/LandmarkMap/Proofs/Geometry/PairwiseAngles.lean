import Mathlib.Data.List.NodupEquivFin
import Mathlib.LinearAlgebra.UnitaryGroup
import LandmarkMap.Proofs.Quality.Spread

set_option autoImplicit false

namespace LandmarkMap

open Matrix

-- What an angle between rays is: one from zero to a half turn, of directions alone, by its cosine. A ray that
-- has no direction is at no angle to any other. Orthogonal matrices are the rotations, and the reflections too.
structure Rays.MeasuresAngles (angle : Vec3 ℝ → Vec3 ℝ → ℝ) : Prop where
  symmetric : ∀ v w, angle w v = angle v w
  range : ∀ v w, angle v w ∈ Set.Icc 0 Real.pi
  directionless : ∀ v w, v = Vec3.zero ∨ w = Vec3.zero → angle v w = 0
  scaled : ∀ v w s t, 0 < s → 0 < t → angle (v.scale s) (w.scale t) = angle v w
  turned : ∀ v w (turn : Mat 3 3 ℝ), turn.toMatrix ∈ orthogonalGroup (Fin 3) ℝ →
    angle (turn.act v) (turn.act w) = angle v w
  cosine : ∀ v w, Real.cos (angle v w) * (v.norm * w.norm) = v.dot w

-- The angles between any two rays of a list.
def Rays.pairAngles (angle : Vec3 ℝ → Vec3 ℝ → ℝ) (rays : List (Vec3 ℝ)) : Set ℝ :=
  { a | ∃ i j : Fin rays.length, i ≠ j ∧ angle (rays.get i) (rays.get j) = a }

-- Each ray of a list may have become longer or shorter, by a factor of its own.
def Rays.Stretched (rays others : List (Vec3 ℝ)) : Prop :=
  List.Forall₂ (fun v w => ∃ s, 0 < s ∧ w = v.scale s) rays others

structure Rays.TakesWidest (angle : Vec3 ℝ → Vec3 ℝ → ℝ) (widest : List (Vec3 ℝ) → ℝ) : Prop where
  narrow : ∀ rays, rays.length < 2 → widest rays = 0
  greatest : ∀ rays, 2 ≤ rays.length → IsGreatest (Rays.pairAngles angle rays) (widest rays)
  permuted : ∀ rays others, others.Perm rays → widest others = widest rays
  scaled : ∀ rays others, Rays.Stretched rays others → widest others = widest rays
  turned : ∀ rays (turn : Mat 3 3 ℝ), turn.toMatrix ∈ orthogonalGroup (Fin 3) ℝ →
    widest (rays.map turn.act) = widest rays
  inserted : ∀ rays more, rays.Sublist more → widest rays ≤ widest more

section Pair

variable (v w : Vec3 ℝ)

theorem space_dot_swap : w.dot v = v.dot w := by
  rw [space_dot, space_dot, dotProduct_comm]

-- The turn from one ray to another, by inner products alone.
theorem turn_products : turnBetween v w = ⟨v.dot w, Real.sqrt (v.dot v * w.dot w - v.dot w ^ 2)⟩ := by
  rw [turnBetween, Vec3.norm, cross_norm, real_sqrt]

theorem scale_dot (s t : ℝ) : (v.scale s).dot (w.scale t) = s * t * v.dot w := by
  simp only [Vec3.dot, Vec3.scale]
  ring

theorem turn_scaled (s t : ℝ) (first : 0 < s) (second : 0 < t) :
    turnBetween (v.scale s) (w.scale t) = ((s * t : ℝ) : ℂ) * turnBetween v w := by
  have positive : 0 ≤ s * t := (mul_pos first second).le
  have area : s * s * v.dot v * (t * t * w.dot w) - (s * t * v.dot w) ^ 2 =
      (s * t) ^ 2 * (v.dot v * w.dot w - v.dot w ^ 2) := by ring
  rw [turn_products, turn_products, scale_dot, scale_dot, scale_dot, area, Real.sqrt_mul (sq_nonneg _), Real.sqrt_sq positive]
  apply Complex.ext
  · rw [Complex.re_ofReal_mul]
  · rw [Complex.im_ofReal_mul]

theorem act_dot (turn : Mat 3 3 ℝ) (orthogonal : turn.toMatrix ∈ orthogonalGroup (Fin 3) ℝ) :
    (turn.act v).dot (turn.act w) = v.dot w := by
  rw [space_dot, space_dot, act_get, act_get, dotProduct_mulVec, ← mulVec_transpose, mulVec_mulVec,
    (mem_orthogonalGroup_iff' (Fin 3) ℝ).mp orthogonal, one_mulVec]

theorem zero_turn (none : v = Vec3.zero ∨ w = Vec3.zero) : turnBetween v w = 0 := by
  have still : (Vec3.zero : Vec3 ℝ).norm = 0 := by
    rw [Vec3.norm, Vec3.normSq, space_dot, space_get_zero, dotProduct_zero, real_sqrt, Real.sqrt_zero]
  rw [← norm_eq_zero, turn_length]
  rcases none with rfl | rfl
  · rw [still, zero_mul]
  · rw [still, mul_zero]

end Pair

theorem angle_measured : Rays.MeasuresAngles Rays.angle where
  symmetric v w := by
    rw [angle_argument, angle_argument, turn_products, turn_products, space_dot_swap, mul_comm (w.dot w)]
  range v w := by
    rw [angle_argument]
    exact ⟨Complex.arg_nonneg_iff.mpr (Real.sqrt_nonneg _), Complex.arg_le_pi _⟩
  directionless v w none := by
    rw [angle_argument, zero_turn v w none, Complex.arg_zero]
  scaled v w s t first second := by
    rw [angle_argument, angle_argument, turn_scaled v w s t first second, Complex.arg_real_mul _ (mul_pos first second)]
  turned v w turn orthogonal :=
    angle_of_products v w _ _ (act_dot v v turn orthogonal) (act_dot w w turn orthogonal)
      (act_dot v w turn orthogonal)
  cosine v w := by
    rw [angle_argument, ← turn_length, mul_comm, Complex.norm_mul_cos_arg]
    rfl

section Widest

variable (rays others : List (Vec3 ℝ))

theorem max_angle_bound (top : ℝ) :
    Rays.maxAngle rays ≤ top ↔ 0 ≤ top ∧ rays.Pairwise fun v w => Rays.angle v w ≤ top :=
  widest_above_bound rays 0 top

-- The widest angle depends on which angles there are between two rays.
theorem max_angle_same (same : ∀ top : ℝ, (others.Pairwise fun v w => Rays.angle v w ≤ top) ↔
    rays.Pairwise fun v w => Rays.angle v w ≤ top) : Rays.maxAngle others = Rays.maxAngle rays := by
  apply eq_of_forall_ge_iff
  intro top
  rw [max_angle_bound, max_angle_bound, same]

theorem stretched_beside (stretched : Rays.Stretched rays others) (v : Vec3 ℝ) (s : ℝ) (positive : 0 < s) (top : ℝ) :
    (∀ u ∈ others, Rays.angle (v.scale s) u ≤ top) ↔ ∀ u ∈ rays, Rays.angle v u ≤ top := by
  induction stretched with
  | nil => simp
  | cons first _ ih =>
      obtain ⟨t, longer, rfl⟩ := first
      rw [List.forall_mem_cons, List.forall_mem_cons, ih, angle_measured.scaled _ _ s t positive longer]

theorem stretched_pairwise (stretched : Rays.Stretched rays others) (top : ℝ) :
    (others.Pairwise fun v w => Rays.angle v w ≤ top) ↔ rays.Pairwise fun v w => Rays.angle v w ≤ top := by
  induction stretched with
  | nil => rfl
  | cons first rest ih =>
      obtain ⟨s, positive, rfl⟩ := first
      rw [List.pairwise_cons, List.pairwise_cons, stretched_beside _ _ rest _ s positive, ih]

theorem pair_positions (v w : Vec3 ℝ) (pair : [v, w].Sublist rays) :
    Rays.angle v w ∈ Rays.pairAngles Rays.angle rays := by
  obtain ⟨place, listed⟩ := List.sublist_iff_exists_fin_orderEmbedding_get_eq.mp pair
  refine ⟨place 0, place 1, place.injective.ne Fin.zero_ne_one, ?_⟩
  rw [← listed, ← listed]
  rfl

theorem max_angle_above (i j : Fin rays.length) (apart : i ≠ j) :
    Rays.angle (rays.get i) (rays.get j) ≤ Rays.maxAngle rays := by
  obtain ⟨_, bounded⟩ := (max_angle_bound rays _).mp le_rfl
  rw [List.pairwise_iff_get] at bounded
  rcases lt_or_gt_of_ne apart with before | after
  · exact bounded i j before
  · rw [angle_measured.symmetric]
    exact bounded j i after

theorem max_angle_greatest (pair : 2 ≤ rays.length) :
    IsGreatest (Rays.pairAngles Rays.angle rays) (Rays.maxAngle rays) := by
  constructor
  · rcases widest_above_reached rays 0 with none | ⟨v, w, listed, widest⟩
    · -- The widest angle is zero, and so is that between the first two.
      have apart : (⟨0, by omega⟩ : Fin rays.length) ≠ ⟨1, by omega⟩ := by simp
      refine ⟨⟨0, by omega⟩, ⟨1, by omega⟩, apart, le_antisymm (max_angle_above rays _ _ apart) ?_⟩
      exact (none.trans_le (angle_measured.range _ _).1 : Rays.maxAngle rays ≤ _)
    · rw [Rays.maxAngle, widest]
      exact pair_positions rays v w listed
  · rintro _ ⟨i, j, apart, rfl⟩
    exact max_angle_above rays i j apart

end Widest

theorem max_angle_widest : Rays.TakesWidest Rays.angle Rays.maxAngle where
  narrow rays few := by
    match rays, few with
    | [], _ => rfl
    | [ray], _ => rfl
  greatest := max_angle_greatest
  permuted rays others permuted := by
    apply max_angle_same
    intro top
    exact permuted.pairwise_iff fun {v w} below => (angle_measured.symmetric v w).trans_le below
  scaled rays others stretched := max_angle_same rays others (stretched_pairwise rays others stretched)
  turned rays turn orthogonal := kept_max_angle turn.act (fun v w => angle_measured.turned v w turn orthogonal) rays
  inserted rays more inserted := by
    obtain ⟨nonneg, bounded⟩ := (max_angle_bound more _).mp le_rfl
    exact (max_angle_bound rays _).mpr ⟨nonneg, bounded.sublist inserted⟩

theorem ray_angles_exact : Rays.MeasuresAngles Rays.angle ∧ Rays.TakesWidest Rays.angle Rays.maxAngle :=
  ⟨angle_measured, max_angle_widest⟩

-- Of three rays, the first and the last point to opposite sides.
theorem opposite_rays_widest : Rays.maxAngle [(⟨1, 0, 0⟩ : Vec3 ℝ), ⟨0, 1, 0⟩, ⟨-2, 0, 0⟩] = Real.pi := by
  obtain ⟨measured, widest⟩ := ray_angles_exact
  obtain ⟨⟨i, j, _, reached⟩, above⟩ := widest.greatest [⟨1, 0, 0⟩, ⟨0, 1, 0⟩, ⟨-2, 0, 0⟩] (by simp)
  have opposite : Rays.angle (⟨1, 0, 0⟩ : Vec3 ℝ) ⟨-2, 0, 0⟩ = Real.pi := by
    have lengths : (⟨1, 0, 0⟩ : Vec3 ℝ).norm = 1 ∧ (⟨-2, 0, 0⟩ : Vec3 ℝ).norm = 2 := by
      constructor
      · norm_num [Vec3.norm, Vec3.normSq, Vec3.dot]
      · have four : (⟨-2, 0, 0⟩ : Vec3 ℝ).normSq = 2 ^ 2 := by norm_num [Vec3.normSq, Vec3.dot]
        rw [Vec3.norm, four, real_sqrt, Real.sqrt_sq zero_le_two]
    have cosine := measured.cosine ⟨1, 0, 0⟩ ⟨-2, 0, 0⟩
    rw [lengths.1, lengths.2] at cosine
    have least : Real.cos (Rays.angle (⟨1, 0, 0⟩ : Vec3 ℝ) ⟨-2, 0, 0⟩) = -1 := by
      norm_num [Vec3.dot] at cosine
      linarith
    rw [← Real.arccos_cos (measured.range _ _).1 (measured.range _ _).2, least, Real.arccos_neg_one]
  apply le_antisymm
  · rw [← reached]
    exact (measured.range _ _).2
  · exact above ⟨0, 2, by simp, opposite⟩

end LandmarkMap
