import LandmarkMap.Proofs.Geometry.Interpolation

set_option autoImplicit false

namespace LandmarkMap

open Matrix

theorem squares_zero (x y z w : ℝ) (none : x ^ 2 + y ^ 2 + z ^ 2 + w ^ 2 = 0) : x = 0 ∧ y = 0 ∧ z = 0 ∧ w = 0 := by
  have plane := add_nonneg (sq_nonneg x) (sq_nonneg y)
  obtain ⟨space, last⟩ := (add_eq_zero_iff_of_nonneg (add_nonneg plane (sq_nonneg z)) (sq_nonneg w)).mp none
  obtain ⟨flat, third⟩ := (add_eq_zero_iff_of_nonneg plane (sq_nonneg z)).mp space
  obtain ⟨first, second⟩ := (add_eq_zero_iff_of_nonneg (sq_nonneg x) (sq_nonneg y)).mp flat
  exact ⟨sq_eq_zero_iff.mp first, sq_eq_zero_iff.mp second, sq_eq_zero_iff.mp third, sq_eq_zero_iff.mp last⟩

section Rotations

variable (a b c : Quaternion ℝ)

theorem same_rotation_turn (same : b.toMat = c.toMat) : a.turnTo b = a.turnTo c := by
  rw [Quaternion.turnTo, Quaternion.turnTo, same]

theorem scaled_rotation (s : ℝ) (sign : s ^ 2 = 1) : (a.scale s).toMat = a.toMat := by
  have product : ∀ x y : ℝ, x * s * (y * s) = x * y := by
    intro x y
    linear_combination x * y * sign
  simp only [Quaternion.toMat, Quaternion.scale, product]

variable (first : a.IsUnit) (second : b.IsUnit)

include first second

-- Unit vectors whose product is as large as it can be lie on one line.
theorem aligned_scale (sign : a.dot b ^ 2 = 1) : b = a.scale (a.dot b) := by
  rw [unit_dot, quaternion_dot] at first second
  have along := quaternion_dot a b
  set s := a.dot b
  have gap : (b.x - a.x * s) ^ 2 + (b.y - a.y * s) ^ 2 + (b.z - a.z * s) ^ 2 + (b.w - a.w * s) ^ 2 = 0 := by
    linear_combination second + 2 * s * along + s ^ 2 * first - sign
  obtain ⟨x, y, z, w⟩ := squares_zero _ _ _ _ gap
  have line : b = ⟨a.x * s, a.y * s, a.z * s, a.w * s⟩ := by
    cases b
    simp only [Quaternion.mk.injEq]
    exact ⟨sub_eq_zero.mp x, sub_eq_zero.mp y, sub_eq_zero.mp z, sub_eq_zero.mp w⟩
  exact line

-- The quaternions of one rotation are a vector and its opposite.
theorem turn_zero : a.turnTo b = 0 ↔ a.toMat = b.toMat := by
  constructor
  · intro none
    have cosine := turn_cosine a b first second
    rw [none, zero_div, Real.cos_zero] at cosine
    have sign : a.dot b ^ 2 = 1 := by rw [← sq_abs, ← cosine, one_pow]
    rw [aligned_scale a b first second sign, scaled_rotation a _ sign]
  · intro same
    rw [← same_rotation_turn a a b same, turn_self a first]

theorem half_turn_dot : a.turnTo b = Real.pi ↔ a.dot b = 0 := by
  rw [turn_dot a b first second]
  constructor
  · intro half
    have quarter : Real.arccos |a.dot b| = Real.pi / 2 := by linarith
    exact abs_eq_zero.mp (Real.arccos_eq_pi_div_two.mp quarter)
  · intro none
    rw [none, abs_zero, Real.arccos_zero]
    ring

end Rotations

section Poses

variable (a b : Pose ℝ) (t : ℝ) (first : a.IsRigid) (second : b.IsRigid) (start : 0 ≤ t) (stop : t ≤ 1)

include first second start stop

theorem half_turn_turns (opposite : a.rotation.turnTo b.rotation = Real.pi) :
    a.rotation.turnTo (a.interpolate b t).rotation = t * Real.pi ∧
      (a.interpolate b t).rotation.turnTo b.rotation = (1 - t) * Real.pi := by
  have apart : ¬ a.rotation.AlmostMeets b.rotation := by
    rw [Quaternion.AlmostMeets, opposite, Real.sin_pi_div_two]
    rintro ⟨_, close⟩
    norm_num at close
  have turns := interpolate_turns a b t first second start stop apart
  rwa [opposite] at turns

theorem half_turn_ends (opposite : a.rotation.turnTo b.rotation = Real.pi) :
    ((a.interpolate b t).rotation.toMat = a.rotation.toMat ↔ t = 0) ∧
      ((a.interpolate b t).rotation.toMat = b.rotation.toMat ↔ t = 1) := by
  obtain ⟨before, after⟩ := half_turn_turns a b t first second start stop opposite
  have unit := interpolate_rigid a b t first second start stop
  constructor
  · rw [eq_comm, ← turn_zero _ _ first unit, before, mul_eq_zero, or_iff_left Real.pi_ne_zero]
  · rw [← turn_zero _ _ unit second, after, mul_eq_zero, or_iff_left Real.pi_ne_zero, sub_eq_zero, eq_comm]

-- Rotations that are half a turn apart are interpolated like any others. The nearer end is taken for rotations
-- that almost meet, and only for those.
theorem half_turns_pass_over :
    (a.rotation.turnTo b.rotation = Real.pi →
      a.rotation.turnTo (a.interpolate b t).rotation = t * Real.pi ∧
        (a.interpolate b t).rotation.turnTo b.rotation = (1 - t) * Real.pi ∧
        ((a.interpolate b t).rotation.toMat = a.rotation.toMat ↔ t = 0) ∧
        ((a.interpolate b t).rotation.toMat = b.rotation.toMat ↔ t = 1)) ∧
      (a.rotation.slerp? b.rotation t 1e-9 = none ↔ a.rotation.AlmostMeets b.rotation) ∧
      (a.rotation.AlmostMeets b.rotation →
        (a.interpolate b t).rotation = if t < 1 / 2 then a.rotation else b.rotation) ∧
      (¬ a.rotation.AlmostMeets b.rotation →
        a.rotation.turnTo (a.interpolate b t).rotation = t * a.rotation.turnTo b.rotation ∧
          (a.interpolate b t).rotation.turnTo b.rotation = (1 - t) * a.rotation.turnTo b.rotation) := by
  refine ⟨?_, slerp_none _ _ t _ first second, interpolate_nearer a b t first second,
    interpolate_turns a b t first second start stop⟩
  intro opposite
  obtain ⟨before, after⟩ := half_turn_turns a b t first second start stop opposite
  exact ⟨before, after, half_turn_ends a b t first second start stop opposite⟩

end Poses

-- Upside down about the first axis.
noncomputable def overturned : Pose ℝ := ⟨⟨1, 0, 0, 0⟩, Vec3.zero⟩

theorem overturned_rigid : overturned.IsRigid := by
  rw [Pose.IsRigid, unit_dot, quaternion_dot]
  norm_num [overturned]

theorem overturned_opposite : (Pose.identity : Pose ℝ).rotation.turnTo overturned.rotation = Real.pi := by
  rw [half_turn_dot Pose.identity.rotation overturned.rotation unit_identity overturned_rigid, quaternion_dot]
  norm_num [overturned, Pose.identity, Quaternion.identity]

theorem overturning_passes_over :
    (Pose.identity : Pose ℝ).IsRigid ∧ overturned.IsRigid ∧
      (Pose.identity : Pose ℝ).rotation.turnTo overturned.rotation = Real.pi ∧
      (Pose.identity : Pose ℝ).rotation.turnTo (Pose.identity.interpolate overturned (1 / 4)).rotation = 1 / 4 * Real.pi :=
  ⟨unit_identity, overturned_rigid, overturned_opposite,
    ((half_turns_pass_over Pose.identity overturned (1 / 4) unit_identity overturned_rigid (by norm_num) (by norm_num)).1
      overturned_opposite).1⟩

-- A quarter of the way the rotation is not that of the nearer end.
theorem overturning_leaves_nearer_end :
    (Pose.identity : Pose ℝ).IsRigid ∧ overturned.IsRigid ∧
      (Pose.identity : Pose ℝ).rotation.turnTo overturned.rotation = Real.pi ∧
      (Pose.identity.interpolate overturned (1 / 4)).rotation.toMat ≠
        (if (1 / 4 : ℝ) < 1 / 2 then (Pose.identity : Pose ℝ).rotation else overturned.rotation).toMat := by
  refine ⟨unit_identity, overturned_rigid, overturned_opposite, ?_⟩
  rw [if_pos (by norm_num)]
  intro same
  have early := (half_turn_ends Pose.identity overturned (1 / 4) unit_identity overturned_rigid (by norm_num) (by norm_num)
    overturned_opposite).1.mp same
  norm_num at early

end LandmarkMap
