import Mathlib.Analysis.SpecialFunctions.Trigonometric.Inverse
import LandmarkMap.Proofs.Geometry.Poses

set_option autoImplicit false

namespace LandmarkMap

open Matrix

namespace Quaternion

-- The angle of the rotation that leads from one rotation to another, read off the trace of its matrix.
noncomputable def turnTo (a b : Quaternion ℝ) : ℝ :=
  Real.arccos (((a.toMat.toMatrixᵀ * b.toMat.toMatrix).trace - 1) / 2)

-- Of the two quaternions of a rotation, the one that is nearer to `a`.
noncomputable def nearSide (a b : Quaternion ℝ) : Quaternion ℝ := if a.dot b < 0 then -b else b

-- The point that divides the arc of the angle `θ` from `a` to `b` in the ratio of `t` to `1 - t`.
noncomputable def alongArc (a b : Quaternion ℝ) (θ t : ℝ) : Quaternion ℝ :=
  a.scale (Real.sin ((1 - t) * θ) / Real.sin θ) + b.scale (Real.sin (t * θ) / Real.sin θ)

-- What may stand between two rotations: nothing is divided by the sine of no angle.
def Between (a b : Quaternion ℝ) (t : ℝ) (r : Quaternion ℝ) : Prop :=
  r = a ∨ r = b ∨ ∃ θ, 0 < Real.sin θ ∧ r = a.alongArc (a.nearSide b) θ t

-- Different rotations that are too close to each other to divide by the sine of half the angle between them.
def AlmostMeets (a b : Quaternion ℝ) : Prop := 0 < a.turnTo b ∧ Real.sin (a.turnTo b / 2) ≤ 1e-9

end Quaternion

section Dots

variable (a b c : Quaternion ℝ) (s : ℝ)

theorem dot_swap : a.dot b = b.dot a := by
  rw [quaternion_dot, quaternion_dot]
  ring

theorem dot_opposite : a.dot (-b) = -a.dot b := by
  rw [quaternion_dot, quaternion_dot]
  change a.x * -b.x + a.y * -b.y + a.z * -b.z + a.w * -b.w = _
  ring

theorem dot_sum : a.dot (b + c) = a.dot b + a.dot c := by
  rw [quaternion_dot, quaternion_dot, quaternion_dot]
  change a.x * (b.x + c.x) + a.y * (b.y + c.y) + a.z * (b.z + c.z) + a.w * (b.w + c.w) = _
  ring

theorem dot_scaled : a.dot (b.scale s) = s * a.dot b := by
  rw [quaternion_dot, quaternion_dot, Quaternion.scale]
  ring

-- By the identity of Lagrange.
theorem dot_squared_le : a.dot b ^ 2 ≤ a.dot a * b.dot b := by
  have rest : a.dot a * b.dot b - a.dot b ^ 2 =
      (a.x * b.y - a.y * b.x) ^ 2 + (a.x * b.z - a.z * b.x) ^ 2 + (a.x * b.w - a.w * b.x) ^ 2 +
        (a.y * b.z - a.z * b.y) ^ 2 + (a.y * b.w - a.w * b.y) ^ 2 + (a.z * b.w - a.w * b.z) ^ 2 := by
    rw [quaternion_dot, quaternion_dot, quaternion_dot]
    ring
  rw [← sub_nonneg, rest]
  positivity

end Dots

section Turns

variable (a b : Quaternion ℝ)

theorem relative_trace :
    (a.toMat.toMatrixᵀ * b.toMat.toMatrix).trace = 4 * a.dot b ^ 2 - a.dot a * b.dot b := by
  rw [rotation_matrix, rotation_matrix, quaternion_dot, quaternion_dot, quaternion_dot, Matrix.trace, Fin.sum_univ_three]
  simp [Matrix.mul_apply, Fin.sum_univ_three]
  ring

variable (first : a.IsUnit) (second : b.IsUnit)

include first second

theorem unit_dot_le : |a.dot b| ≤ 1 := by
  have square := dot_squared_le a b
  rw [(unit_dot a).mp first, (unit_dot b).mp second, one_mul] at square
  exact abs_le_one_iff_mul_self_le_one.mpr (by rwa [← sq])

-- The trace does not tell a quaternion from its opposite, so the angle is that between lines and not
-- between vectors.
theorem turn_dot : a.turnTo b = 2 * Real.arccos |a.dot b| := by
  have upper := unit_dot_le a b first second
  have lower : -1 ≤ |a.dot b| := by linarith [abs_nonneg (a.dot b)]
  have doubled : (4 * a.dot b ^ 2 - 1 * 1 - 1) / 2 = Real.cos (2 * Real.arccos |a.dot b|) := by
    rw [Real.cos_two_mul, Real.cos_arccos lower upper, sq_abs]
    ring
  have quarter : Real.arccos |a.dot b| ≤ Real.pi / 2 := Real.arccos_le_pi_div_two.mpr (abs_nonneg _)
  rw [Quaternion.turnTo, relative_trace, (unit_dot a).mp first, (unit_dot b).mp second, doubled,
    Real.arccos_cos (by linarith [Real.arccos_nonneg |a.dot b|]) (by linarith)]

theorem turn_nonneg : 0 ≤ a.turnTo b := by
  rw [turn_dot a b first second]
  linarith [Real.arccos_nonneg |a.dot b|]

theorem turn_at_most : a.turnTo b ≤ Real.pi := by
  have quarter : Real.arccos |a.dot b| ≤ Real.pi / 2 := Real.arccos_le_pi_div_two.mpr (abs_nonneg _)
  rw [turn_dot a b first second]
  linarith

theorem turn_cosine : Real.cos (a.turnTo b / 2) = |a.dot b| := by
  rw [turn_dot a b first second, mul_div_cancel_left₀ _ two_ne_zero,
    Real.cos_arccos (by linarith [abs_nonneg (a.dot b)]) (unit_dot_le a b first second)]

end Turns

theorem turn_self (q : Quaternion ℝ) (unit : q.IsUnit) : q.turnTo q = 0 := by
  rw [turn_dot q q unit unit, (unit_dot q).mp unit, abs_one, Real.arccos_one, mul_zero]

theorem double_arccos (x : ℝ) (nonneg : 0 ≤ x) (quarter : x ≤ Real.pi / 2) : 2 * Real.arccos |Real.cos x| = 2 * x := by
  have ahead : 0 ≤ Real.cos x := Real.cos_nonneg_of_neg_pi_div_two_le_of_le (by linarith [Real.pi_pos]) quarter
  rw [abs_of_nonneg ahead, Real.arccos_cos nonneg (by linarith [Real.pi_pos])]

section Sides

variable (a b c : Quaternion ℝ)

theorem near_side_dot : a.dot (a.nearSide b) = |a.dot b| := by
  rw [Quaternion.nearSide]
  by_cases far : a.dot b < 0
  · rw [if_pos far, dot_opposite, abs_of_neg far]
  · rw [if_neg far, abs_of_nonneg (not_lt.mp far)]

theorem near_side_unit (second : b.IsUnit) : (a.nearSide b).IsUnit := by
  rw [Quaternion.nearSide]
  by_cases far : a.dot b < 0
  · rw [if_pos far]
    exact unit_neg b second
  · rwa [if_neg far]

theorem near_side_abs : |c.dot (a.nearSide b)| = |c.dot b| := by
  rw [Quaternion.nearSide]
  by_cases far : a.dot b < 0
  · rw [if_pos far, dot_opposite, abs_neg]
  · rw [if_neg far]

theorem near_side_turn (first : c.IsUnit) (second : b.IsUnit) : c.turnTo (a.nearSide b) = c.turnTo b := by
  rw [turn_dot c _ first (near_side_unit a b second), near_side_abs, turn_dot c b first second]

end Sides

section Arcs

variable (a b : Quaternion ℝ) (θ t : ℝ)

theorem arc_start (bent : Real.sin θ ≠ 0) : a.alongArc b θ 0 = a := by
  have parts : a.scale 1 + b.scale 0 = a := by
    change (⟨a.x * 1 + b.x * 0, a.y * 1 + b.y * 0, a.z * 1 + b.z * 0, a.w * 1 + b.w * 0⟩ : Quaternion ℝ) = a
    simp only [mul_one, mul_zero, add_zero]
  rw [Quaternion.alongArc, sub_zero, one_mul, zero_mul, Real.sin_zero, zero_div, div_self bent, parts]

variable (angle : a.dot b = Real.cos θ) (bent : Real.sin θ ≠ 0)

include angle bent

theorem arc_from (first : a.IsUnit) : a.dot (a.alongArc b θ t) = Real.cos (t * θ) := by
  have part : (1 - t) * θ = θ - t * θ := by ring
  rw [Quaternion.alongArc, dot_sum, dot_scaled, dot_scaled, (unit_dot a).mp first, angle, part, Real.sin_sub]
  field_simp
  ring

theorem arc_to (second : b.IsUnit) : b.dot (a.alongArc b θ t) = Real.cos ((1 - t) * θ) := by
  have part : t * θ = θ - (1 - t) * θ := by ring
  rw [Quaternion.alongArc, dot_sum, dot_scaled, dot_scaled, (unit_dot b).mp second, dot_swap b a, angle, part, Real.sin_sub]
  field_simp
  ring

theorem arc_unit (first : a.IsUnit) (second : b.IsUnit) : (a.alongArc b θ t).IsUnit := by
  have whole : (1 - t) * θ + t * θ = θ := by ring
  have square : (a.alongArc b θ t).dot (a.alongArc b θ t) =
      Real.sin ((1 - t) * θ) / Real.sin θ * (a.alongArc b θ t).dot a +
        Real.sin (t * θ) / Real.sin θ * (a.alongArc b θ t).dot b := by
    rw [← dot_scaled, ← dot_scaled, ← dot_sum]
    rfl
  have sum := Real.sin_add ((1 - t) * θ) (t * θ)
  rw [whole] at sum
  rw [unit_dot, square, dot_swap _ a, dot_swap _ b, arc_from a b θ t angle bent first, arc_to a b θ t angle bent second,
    div_mul_eq_mul_div, div_mul_eq_mul_div, ← add_div, div_eq_one_iff_eq bent, sum]
  ring

end Arcs

section Slerp

variable (a b : Quaternion ℝ) (t tolerance : ℝ) (first : a.IsUnit) (second : b.IsUnit)

include first second

-- Spherical interpolation in terms of the angle between the rotations.
theorem slerp_arc :
    a.slerp? b t tolerance =
      if a.turnTo b = 0 then some a
      else if Real.sin (a.turnTo b / 2) ≤ tolerance then none
      else some (a.alongArc (a.nearSide b) (a.turnTo b / 2) t) := by
  have upper := unit_dot_le a b first second
  have angle : a.turnTo b / 2 = Real.arccos |a.dot b| := by
    rw [turn_dot a b first second, mul_div_cancel_left₀ _ two_ne_zero]
  have same : 1 ≤ |a.dot b| ↔ a.turnTo b = 0 := by
    rw [turn_dot a b first second, mul_eq_zero_iff_left two_ne_zero, Real.arccos_eq_zero]
  have sine : Real.sqrt (1 - |a.dot b| * |a.dot b|) = Real.sin (a.turnTo b / 2) := by
    rw [angle, Real.sin_arccos, sq]
  have positive : |Real.sin (a.turnTo b / 2)| = Real.sin (a.turnTo b / 2) := by
    rw [← sine, abs_of_nonneg (Real.sqrt_nonneg _)]
  change (if 1 ≤ a.dot (a.nearSide b) then some a
    else if |Real.sqrt (1 - a.dot (a.nearSide b) * a.dot (a.nearSide b))| ≤ tolerance then none
    else some (a.scale (Real.sin ((1 - t) * Real.arccos (a.dot (a.nearSide b))) /
        Real.sqrt (1 - a.dot (a.nearSide b) * a.dot (a.nearSide b))) +
      (a.nearSide b).scale (Real.sin (t * Real.arccos (a.dot (a.nearSide b))) /
        Real.sqrt (1 - a.dot (a.nearSide b) * a.dot (a.nearSide b))))) = _
  simp only [near_side_dot, sine, positive, same, ← angle]
  rfl

-- Only rotations that are almost the same have no interpolation.
theorem slerp_none :
    a.slerp? b t tolerance = none ↔ 0 < a.turnTo b ∧ Real.sin (a.turnTo b / 2) ≤ tolerance := by
  rw [slerp_arc a b t tolerance first second]
  by_cases same : a.turnTo b = 0
  · simp [same]
  · have positive : 0 < a.turnTo b := lt_of_le_of_ne (turn_nonneg a b first second) (Ne.symm same)
    by_cases near : Real.sin (a.turnTo b / 2) ≤ tolerance
    · simp [same, near, positive]
    · simp [same, near]

-- The rotation turns at a constant speed.
theorem slerp_turns (start : 0 ≤ t) (stop : t ≤ 1) (small : 0 ≤ tolerance) (r : Quaternion ℝ)
    (found : a.slerp? b t tolerance = some r) :
    r.IsUnit ∧ a.turnTo r = t * a.turnTo b ∧ r.turnTo b = (1 - t) * a.turnTo b := by
  rw [slerp_arc a b t tolerance first second] at found
  by_cases same : a.turnTo b = 0
  · rw [if_pos same] at found
    cases found
    rw [same, turn_self a first, mul_zero, mul_zero]
    exact ⟨first, rfl, rfl⟩
  · by_cases near : Real.sin (a.turnTo b / 2) ≤ tolerance
    · rw [if_neg same, if_pos near] at found
      cases found
    · rw [if_neg same, if_neg near] at found
      cases found
      have nonneg := turn_nonneg a b first second
      have most := turn_at_most a b first second
      have angle : a.dot (a.nearSide b) = Real.cos (a.turnTo b / 2) := by
        rw [near_side_dot, turn_cosine a b first second]
      set θ := a.turnTo b / 2 with half
      have turn : a.turnTo b = 2 * θ := by
        rw [half]
        ring
      have bent : Real.sin θ ≠ 0 := by linarith
      have side := near_side_unit a b second
      have unit := arc_unit a (a.nearSide b) θ t angle bent first side
      refine ⟨unit, ?_, ?_⟩
      · rw [turn_dot a _ first unit, arc_from a _ θ t angle bent first,
          double_arccos _ (by positivity) (by nlinarith), turn]
        ring
      · rw [← near_side_turn a b _ unit second, turn_dot _ _ unit side, dot_swap, arc_to a _ θ t angle bent side,
          double_arccos _ (mul_nonneg (by linarith) (by linarith)) (by nlinarith), turn]
        ring

end Slerp

theorem slerp_between (a b : Quaternion ℝ) (t tolerance : ℝ) (small : 0 ≤ tolerance) (r : Quaternion ℝ)
    (found : a.slerp? b t tolerance = some r) : a.Between b t r := by
  set c := a.dot (a.nearSide b)
  have sine : Real.sin (Real.arccos c) = Real.sqrt (1 - c * c) := by rw [Real.sin_arccos, sq]
  change (if 1 ≤ c then some a
    else if |Real.sqrt (1 - c * c)| ≤ tolerance then none
    else some (a.scale (Real.sin ((1 - t) * Real.arccos c) / Real.sqrt (1 - c * c)) +
      (a.nearSide b).scale (Real.sin (t * Real.arccos c) / Real.sqrt (1 - c * c)))) = some r at found
  by_cases same : 1 ≤ c
  · rw [if_pos same] at found
    exact .inl (Option.some.inj found).symm
  · by_cases near : |Real.sqrt (1 - c * c)| ≤ tolerance
    · rw [if_neg same, if_pos near] at found
      cases found
    · rw [if_neg same, if_neg near, ← sine] at found
      rw [← sine, abs_of_nonneg (sine ▸ Real.sqrt_nonneg _), not_le] at near
      exact .inr (.inr ⟨Real.arccos c, small.trans_lt near, (Option.some.inj found).symm⟩)

section Ends

variable (a b : Pose ℝ) (t : ℝ)

theorem lerp_coordinates (p q : Vec3 ℝ) : p.lerp q t = p.scale (1 - t) + q.scale t := by
  rw [Vec3.lerp]
  by_cases finish : 1 - t = 0
  · rw [if_pos (beq_iff_eq.mpr finish), finish]
    apply space_ext
    rw [space_get_add, space_get_scale p, zero_smul, zero_add]
  · rw [if_neg fun ended => finish (beq_iff_eq.mp ended)]

theorem interpolate_position : (a.interpolate b t).position = a.position.scale (1 - t) + b.position.scale t :=
  lerp_coordinates t a.position b.position

theorem interpolate_rotation :
    (a.interpolate b t).rotation =
      (a.rotation.slerp? b.rotation t 1e-9).getD (if t < 1 / 2 then a.rotation else b.rotation) := by
  rw [Pose.interpolate, real_half]
  cases a.rotation.slerp? b.rotation t 1e-9 with
  | none => rfl
  | some r => rfl

theorem interpolate_between : a.rotation.Between b.rotation t (a.interpolate b t).rotation := by
  rw [interpolate_rotation]
  cases found : a.rotation.slerp? b.rotation t 1e-9 with
  | some r => exact slerp_between _ _ t _ (by norm_num) r found
  | none =>
      rw [Option.getD_none]
      by_cases early : t < 1 / 2
      · exact .inl (if_pos early)
      · exact .inr (.inl (if_neg early))

variable (first : a.IsRigid) (second : b.IsRigid)

include first second

theorem interpolate_rigid (start : 0 ≤ t) (stop : t ≤ 1) : (a.interpolate b t).IsRigid := by
  rw [Pose.IsRigid, interpolate_rotation]
  cases found : a.rotation.slerp? b.rotation t 1e-9 with
  | some r => exact (slerp_turns _ _ t _ first second start stop (by norm_num) r found).1
  | none =>
      rw [Option.getD_none]
      by_cases early : t < 1 / 2
      · rw [if_pos early]
        exact first
      · rw [if_neg early]
        exact second

-- At the start the first pose comes back as it is, whichever of the three ways its rotation takes.
theorem interpolate_start : a.interpolate b 0 = a := by
  have place : (a.interpolate b 0).position = a.position := by
    apply space_ext
    rw [interpolate_position, space_get_add, space_get_scale, space_get_scale, sub_zero, one_smul, zero_smul, add_zero]
  have turn : (a.interpolate b 0).rotation = a.rotation := by
    rw [interpolate_rotation, if_pos (by norm_num), slerp_arc _ _ _ _ first second]
    by_cases same : a.rotation.turnTo b.rotation = 0
    · rw [if_pos same, Option.getD_some]
    · by_cases near : Real.sin (a.rotation.turnTo b.rotation / 2) ≤ 1e-9
      · rw [if_neg same, if_pos near, Option.getD_none]
      · have bent : Real.sin (a.rotation.turnTo b.rotation / 2) ≠ 0 := by
          intro flat
          rw [flat] at near
          exact near (by norm_num)
        rw [if_neg same, if_neg near, Option.getD_some, arc_start _ _ _ bent]
  calc a.interpolate b 0 = ⟨(a.interpolate b 0).rotation, (a.interpolate b 0).position⟩ := rfl
    _ = a := by rw [place, turn]

theorem interpolate_turns (start : 0 ≤ t) (stop : t ≤ 1) (apart : ¬ a.rotation.AlmostMeets b.rotation) :
    a.rotation.turnTo (a.interpolate b t).rotation = t * a.rotation.turnTo b.rotation ∧
      (a.interpolate b t).rotation.turnTo b.rotation = (1 - t) * a.rotation.turnTo b.rotation := by
  rw [interpolate_rotation]
  cases found : a.rotation.slerp? b.rotation t 1e-9 with
  | some r => exact (slerp_turns _ _ t _ first second start stop (by norm_num) r found).2
  | none => exact absurd ((slerp_none _ _ t _ first second).mp found) apart

theorem interpolate_nearer (close : a.rotation.AlmostMeets b.rotation) :
    (a.interpolate b t).rotation = if t < 1 / 2 then a.rotation else b.rotation := by
  rw [interpolate_rotation, (slerp_none _ _ t _ first second).mpr close, Option.getD_none]

end Ends

end LandmarkMap
