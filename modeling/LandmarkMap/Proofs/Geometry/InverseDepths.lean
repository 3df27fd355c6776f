import LandmarkMap.Proofs.Geometry.Bearings

set_option autoImplicit false

namespace LandmarkMap

-- A unit quaternion turns the third axis to the direction that its polynomial gives.
theorem direction_polynomial (bearing : Bearing ℝ) (unit : bearing.rotation.IsUnit) :
    bearing.direction = Bearing.directionOf bearing.rotation := by
  have turned := rotate_get bearing.rotation unit ⟨0, 0, 1⟩
  rw [rotation_matrix] at turned
  apply space_ext
  rw [Bearing.direction, turned]
  funext i
  fin_cases i
  · simp [Bearing.directionOf, Vec3.get, Matrix.mulVec, dotProduct, Fin.sum_univ_three]
    ring
  · simp [Bearing.directionOf, Vec3.get, Matrix.mulVec, dotProduct, Fin.sum_univ_three]
  · simp [Bearing.directionOf, Vec3.get, Matrix.mulVec, dotProduct, Fin.sum_univ_three]
    ring

theorem direction_unit (bearing : Bearing ℝ) (unit : bearing.rotation.IsUnit) : bearing.direction.normSq = 1 := by
  rw [Bearing.direction, Vec3.normSq, rotate_dot _ unit]
  simp [Vec3.dot]

namespace Vec3

-- The cap around the negative third axis on which no direction but that axis has a bearing of its own.
def OnCap (u : Vec3 ℝ) : Prop := 1 + u.z < 1e-10

noncomputable instance (u : Vec3 ℝ) : Decidable u.OnCap := Real.decidableLT _ _

-- A unit vector for which the axis stands in.
def Lost (u : Vec3 ℝ) : Prop := u.OnCap ∧ u.z ≠ -1

-- The direction that is kept of a unit vector.
noncomputable def kept (u : Vec3 ℝ) : Vec3 ℝ := if u.OnCap then ⟨0, 0, -1⟩ else u

end Vec3

theorem half_turn_direction :
    (⟨1, 0, 0, 0⟩ : Quaternion ℝ).normalize.IsUnit ∧
      Bearing.directionOf (⟨1, 0, 0, 0⟩ : Quaternion ℝ).normalize = ⟨0, 0, -1⟩ := by
  have unit : (⟨1, 0, 0, 0⟩ : Quaternion ℝ).IsUnit := by
    rw [unit_dot, quaternion_dot]
    norm_num
  rw [unit_normalize _ unit]
  refine ⟨unit, ?_⟩
  norm_num [Bearing.directionOf]

theorem direction_kept (v : Vec3 ℝ) (bearing : Bearing ℝ) (directed : Bearing.ofDirection? v = .ok bearing) :
    bearing.rotation.IsUnit ∧ bearing.direction = (v.divide v.norm).kept := by
  rw [Bearing.ofDirection?] at directed
  by_cases some : 0 < v.norm
  · rw [if_neg (by simpa using some)] at directed
    have chosen : bearing.rotation =
        if (v.divide v.norm).OnCap then (⟨1, 0, 0, 0⟩ : Quaternion ℝ).normalize
        else (⟨-(v.divide v.norm).y, (v.divide v.norm).x, 0, 1 + (v.divide v.norm).z⟩ : Quaternion ℝ).normalize := by
      cases directed
      rfl
    suffices turned : bearing.rotation.IsUnit ∧ Bearing.directionOf bearing.rotation = (v.divide v.norm).kept from
      ⟨turned.1, (direction_polynomial bearing turned.1).trans turned.2⟩
    by_cases cap : (v.divide v.norm).OnCap
    · rw [chosen, Vec3.kept, if_pos cap, if_pos cap]
      exact half_turn_direction
    · rw [chosen, Vec3.kept, if_neg cap, if_neg cap]
      exact half_way_direction _ (unit_divide v some) (lt_of_lt_of_le (by norm_num) (not_lt.mp cap))
  · rw [if_pos (Or.inl some)] at directed
    cases directed

section Kept

variable (u : Vec3 ℝ)

theorem kept_off_cap (off : ¬ u.OnCap) : u.kept = u := if_neg off

variable (unit : u.normSq = 1)

include unit

-- What the cap costs: nothing at its middle, and three seconds of arc at its rim.
theorem kept_apart (cap : u.OnCap) : (u.kept - u).normSq = 2 * (1 + u.z) := by
  rw [Vec3.kept, if_pos cap, sub_coordinates]
  simp only [Vec3.normSq, Vec3.dot] at *
  linear_combination unit

-- At the bottom there is but one unit vector.
theorem lowest_unit (low : u.z = -1) : u = ⟨0, 0, -1⟩ := by
  simp only [Vec3.normSq, Vec3.dot, low] at unit
  have sum : u.x * u.x + u.y * u.y = 0 := by linarith
  obtain ⟨x, y⟩ := (add_eq_zero_iff_of_nonneg (mul_self_nonneg u.x) (mul_self_nonneg u.y)).mp sum
  have coordinates : u = ⟨u.x, u.y, u.z⟩ := rfl
  rw [coordinates, mul_self_eq_zero.mp x, mul_self_eq_zero.mp y, low]

theorem kept_same : u.kept = u ↔ ¬ u.Lost := by
  constructor
  · rintro same ⟨cap, off⟩
    rw [Vec3.kept, if_pos cap] at same
    exact off (congrArg Vec3.z same).symm
  · intro middle
    by_cases cap : u.OnCap
    · have low : u.z = -1 := by_contra fun off => middle ⟨cap, off⟩
      rw [Vec3.kept, if_pos cap, lowest_unit u unit low]
    · exact kept_off_cap u cap

theorem kept_close : (u.kept - u).norm < 1.5e-5 := by
  rw [Vec3.norm, real_sqrt, Real.sqrt_lt' (by norm_num)]
  by_cases cap : u.OnCap
  · rw [kept_apart u unit cap]
    rw [Vec3.OnCap] at cap
    norm_num at *
    linarith
  · rw [kept_off_cap u cap]
    norm_num [Vec3.normSq, Vec3.dot, sub_coordinates]

end Kept

theorem scale_norm (v : Vec3 ℝ) (s : ℝ) (positive : 0 ≤ s) : (v.scale s).norm = s * v.norm := by
  have square : (v.scale s).normSq = s ^ 2 * v.normSq := by
    simp only [Vec3.normSq, Vec3.dot, Vec3.scale]
    ring
  rw [Vec3.norm, Vec3.norm, square, real_sqrt, real_sqrt, Real.sqrt_mul (sq_nonneg s), Real.sqrt_sq positive]

-- The direction from an anchor to a point.
noncomputable def Vec3.rayTo (anchor p : Vec3 ℝ) : Vec3 ℝ := (p - anchor).divide (p - anchor).norm

theorem ray_unit (anchor p : Vec3 ℝ) (apart : p ≠ anchor) : (anchor.rayTo p).normSq = 1 :=
  unit_divide _ (distance_positive p anchor apart)

theorem along_ray (anchor p : Vec3 ℝ) (apart : p ≠ anchor) : p = anchor + (anchor.rayTo p).scale (p - anchor).norm := by
  apply space_ext
  rw [Vec3.rayTo, space_get_add, space_get_scale, space_get_divide, smul_smul,
    mul_inv_cancel₀ (distance_positive p anchor apart).ne', one_smul, space_get_sub, add_sub_cancel]

section Reach

variable (anchor u v : Vec3 ℝ) (far : ℝ)

theorem reach_difference : anchor + u.scale far - (anchor + v.scale far) = (u - v).scale far := by
  apply space_ext
  simp only [space_get_sub, space_get_add, space_get_scale, smul_sub]
  abel

theorem reach_same (positive : 0 < far) : anchor + u.scale far = anchor + v.scale far ↔ u = v := by
  constructor
  · intro same
    have coordinates := congrArg Vec3.get same
    rw [space_get_add, space_get_add, space_get_scale, space_get_scale, add_right_inj] at coordinates
    exact space_ext u v (smul_right_injective _ positive.ne' coordinates)
  · rintro rfl
    rfl

theorem reach_offset : anchor + u.scale far - anchor = u.scale far := by
  apply space_ext
  rw [space_get_sub, space_get_add, add_sub_cancel_left]

end Reach

theorem deep_point (anchor : Vec3 ℝ) (seen : InverseDepth ℝ) (deep : 0 < seen.inverseDepth) :
    InverseDepth.toPoint anchor seen = .ok (anchor + seen.bearing.direction.scale (1 / seen.inverseDepth)) := by
  have scaled : seen.bearing.direction.divide seen.inverseDepth = seen.bearing.direction.scale (1 / seen.inverseDepth) := by
    apply space_ext
    rw [space_get_divide, space_get_scale, one_div]
  rw [InverseDepth.toPoint, require_bind _ _ _ deep, scaled]
  rfl

namespace InverseDepth

-- A point is written with its inverse depth from an anchor, and read back.
structure ReadsBack (anchor p : Vec3 ℝ) (seen : InverseDepth ℝ) (back : Vec3 ℝ) : Prop where
  written : ofPoint? p anchor = .ok seen
  depth : seen.inverseDepth = 1 / (p - anchor).norm
  read : toPoint anchor seen = .ok back
  same : back = p ↔ ¬ (anchor.rayTo p).Lost
  below : (anchor.rayTo p).OnCap → back = anchor + ⟨0, 0, -(p - anchor).norm⟩
  close : (back - p).norm < 1.5e-5 * (p - anchor).norm

-- A bearing with an inverse depth is read as a point, and written again.
structure WritesAgain (anchor : Vec3 ℝ) (seen : InverseDepth ℝ) (p : Vec3 ℝ) (again : InverseDepth ℝ) : Prop where
  read : toPoint anchor seen = .ok p
  written : ofPoint? p anchor = .ok again
  depth : again.inverseDepth = seen.inverseDepth
  same : again.bearing.direction = seen.bearing.direction ↔ ¬ seen.bearing.direction.Lost
  below : seen.bearing.direction.OnCap → again.bearing.direction = ⟨0, 0, -1⟩
  close : (again.bearing.direction - seen.bearing.direction).norm < 1.5e-5

end InverseDepth

theorem point_read_back (anchor p : Vec3 ℝ) (apart : p ≠ anchor) :
    ∃ seen back, InverseDepth.ReadsBack anchor p seen back := by
  have positive := distance_positive p anchor apart
  have unit := ray_unit anchor p apart
  have along := along_ray anchor p apart
  obtain ⟨bearing, directed, written⟩ := anchored p anchor ⟨positive, rfl⟩
  have kept : bearing.direction = (anchor.rayTo p).kept := (direction_kept _ bearing directed).2
  have read := deep_point anchor ⟨bearing, 1 / (p - anchor).norm⟩ (one_div_pos.mpr positive)
  rw [one_div_one_div, kept] at read
  have gap := reach_difference anchor (anchor.rayTo p).kept (anchor.rayTo p) (p - anchor).norm
  have same := reach_same anchor (anchor.rayTo p).kept (anchor.rayTo p) (p - anchor).norm positive
  rw [← along] at gap same
  refine ⟨_, _, written, rfl, read, same.trans (kept_same _ unit), ?_, ?_⟩
  · intro cap
    rw [Vec3.kept, if_pos cap, Vec3.scale, zero_mul, neg_one_mul]
  · rw [gap, scale_norm _ _ positive.le, mul_comm]
    exact mul_lt_mul_of_pos_right (kept_close _ unit) positive

theorem depth_written_again (anchor : Vec3 ℝ) (seen : InverseDepth ℝ) (unit : seen.bearing.rotation.IsUnit)
    (deep : 0 < seen.inverseDepth) : ∃ p again, InverseDepth.WritesAgain anchor seen p again := by
  have read := deep_point anchor seen deep
  have whole := direction_unit seen.bearing unit
  have long : 0 < 1 / seen.inverseDepth := one_div_pos.mpr deep
  have offset := reach_offset anchor seen.bearing.direction (1 / seen.inverseDepth)
  generalize anchor + seen.bearing.direction.scale (1 / seen.inverseDepth) = p at read offset
  have distance : (p - anchor).norm = 1 / seen.inverseDepth := by
    rw [offset, scale_norm _ _ long.le, Vec3.norm, whole, real_sqrt, Real.sqrt_one, mul_one]
  have ray : (p - anchor).divide (p - anchor).norm = seen.bearing.direction := by
    apply space_ext
    rw [distance, offset, space_get_divide, space_get_scale, smul_smul, inv_mul_cancel₀ long.ne', one_smul]
  obtain ⟨bearing, directed, written⟩ := anchored p anchor ⟨by rwa [distance], rfl⟩
  have kept : bearing.direction = seen.bearing.direction.kept := by
    rw [(direction_kept _ bearing directed).2, ray]
  refine ⟨p, _, read, written, ?_, ?_, ?_, ?_⟩
  · rw [distance, one_div_one_div]
  · rw [kept, kept_same _ whole]
  · intro cap
    rw [kept, Vec3.kept, if_pos cap]
  · rw [kept]
    exact kept_close _ whole

-- Written and read back, points and bearings are what they were, save that the axis stands in for the other
-- directions on the cap.
theorem inverse_depth_round_trip (anchor : Vec3 ℝ) :
    (∀ p, p ≠ anchor → ∃ seen back, InverseDepth.ReadsBack anchor p seen back) ∧
      ∀ seen : InverseDepth ℝ, seen.bearing.rotation.IsUnit → 0 < seen.inverseDepth →
        ∃ p again, InverseDepth.WritesAgain anchor seen p again :=
  ⟨point_read_back anchor, depth_written_again anchor⟩

theorem level_point_returns :
    (∃ seen, InverseDepth.ofPoint? (⟨4, 2, 1 / 2⟩ : Vec3 ℝ) ⟨1, -2, 1 / 2⟩ = .ok seen ∧ seen.inverseDepth = 1 / 5 ∧
      InverseDepth.toPoint ⟨1, -2, 1 / 2⟩ seen = .ok ⟨4, 2, 1 / 2⟩) ∧
    ∃ p again, InverseDepth.WritesAgain ⟨1, -2, 1 / 2⟩ ⟨⟨Quaternion.identity⟩, 1 / 5⟩ p again := by
  have apart : (⟨4, 2, 1 / 2⟩ : Vec3 ℝ) ≠ ⟨1, -2, 1 / 2⟩ := by
    norm_num
  have distance : ((⟨4, 2, 1 / 2⟩ : Vec3 ℝ) - ⟨1, -2, 1 / 2⟩).norm = 5 := by
    rw [Vec3.norm, real_sqrt, Real.sqrt_eq_iff_mul_self_eq_of_pos (by norm_num)]
    norm_num [Vec3.normSq, Vec3.dot, sub_coordinates]
  have level : ¬ (Vec3.rayTo ⟨1, -2, 1 / 2⟩ (⟨4, 2, 1 / 2⟩ : Vec3 ℝ)).Lost := by
    rintro ⟨cap, -⟩
    rw [Vec3.OnCap, Vec3.rayTo, distance, sub_coordinates, Vec3.divide] at cap
    norm_num at cap
  obtain ⟨points, bearings⟩ := inverse_depth_round_trip ⟨1, -2, 1 / 2⟩
  obtain ⟨seen, back, reads⟩ := points _ apart
  refine ⟨⟨seen, reads.written, by rw [reads.depth, distance], ?_⟩, bearings _ unit_identity (by norm_num)⟩
  rw [reads.read, reads.same.mpr level]

-- A point so far below its anchor that the third axis stands in for its direction.
def lowPoint : Vec3 ℝ := ⟨400000, 0, -39999999999⟩

theorem low_point_strays :
    lowPoint ≠ Vec3.zero ∧ ∃ seen, InverseDepth.ofPoint? lowPoint Vec3.zero = .ok seen ∧
      InverseDepth.toPoint Vec3.zero seen = .ok ⟨0, 0, -40000000001⟩ ∧ lowPoint ≠ ⟨0, 0, -40000000001⟩ := by
  have apart : lowPoint ≠ Vec3.zero := by
    norm_num [lowPoint, Vec3.zero]
  have distance : (lowPoint - Vec3.zero).norm = 40000000001 := by
    rw [Vec3.norm, real_sqrt, Real.sqrt_eq_iff_mul_self_eq_of_pos (by norm_num)]
    norm_num [Vec3.normSq, Vec3.dot, sub_coordinates, lowPoint, Vec3.zero]
  have cap : (Vec3.rayTo Vec3.zero lowPoint).OnCap := by
    rw [Vec3.OnCap, Vec3.rayTo, distance, sub_coordinates, Vec3.divide]
    norm_num [lowPoint, Vec3.zero]
  obtain ⟨seen, back, reads⟩ := point_read_back Vec3.zero lowPoint apart
  refine ⟨apart, seen, reads.written, ?_, by norm_num [lowPoint]⟩
  rw [reads.read, reads.below cap, distance, add_coordinates]
  norm_num [Vec3.zero]

end LandmarkMap
