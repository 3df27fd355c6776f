import LandmarkMap.Proofs.Geometry.InverseDepths

set_option autoImplicit false

namespace LandmarkMap

namespace Bearing

-- The rotation that is kept for a unit vector.
noncomputable def arcTo (u : Vec3 ℝ) : Quaternion ℝ :=
  if u.OnCap then (⟨1, 0, 0, 0⟩ : Quaternion ℝ).normalize else (⟨-u.y, u.x, 0, 1 + u.z⟩ : Quaternion ℝ).normalize

theorem directed (v : Vec3 ℝ) (some : 0 < v.norm) : ofDirection? v = .ok ⟨arcTo (v.divide v.norm)⟩ := by
  rw [ofDirection?, if_neg (by simpa using some)]
  rfl

theorem undirected (v : Vec3 ℝ) (none : ¬ 0 < v.norm) : ofDirection? v = .error .degenerateBearing := by
  rw [ofDirection?, if_pos (Or.inl none)]

theorem zero_undirected (v : Vec3 ℝ) : ofDirection? v = .error .degenerateBearing ↔ v = Vec3.zero := by
  constructor
  · intro refused
    by_contra some
    cases (directed v (space_norm_positive v some)).symm.trans refused
  · rintro rfl
    apply undirected
    simp [Vec3.norm, Vec3.normSq, Vec3.dot, Vec3.zero]

-- The axis of the rotation is at a right angle to the third axis of space.
theorem arc_level (u : Vec3 ℝ) : (arcTo u).z = 0 := by
  rw [arcTo]
  split
  · exact zero_div _
  · exact zero_div _

theorem arc_positive (u : Vec3 ℝ) (off : ¬ u.OnCap) : 0 < (arcTo u).w := by
  have above : 0 < 1 + u.z := lt_of_lt_of_le (by norm_num) (not_lt.mp off)
  rw [arcTo, if_neg off]
  refine div_pos above (Real.sqrt_pos.mpr ?_)
  rw [quaternion_dot]
  nlinarith [mul_self_nonneg u.x, mul_self_nonneg u.y, mul_pos above above]

theorem scaled_directed (v : Vec3 ℝ) (s : ℝ) (positive : 0 < s) : ofDirection? (v.scale s) = ofDirection? v := by
  have length := scale_norm v s positive.le
  by_cases some : 0 < v.norm
  · have ray : (v.scale s).divide (v.scale s).norm = v.divide v.norm := by
      apply space_ext
      rw [length, space_get_divide, space_get_divide, space_get_scale, smul_smul, mul_inv_rev, mul_assoc,
        inv_mul_cancel₀ positive.ne', mul_one]
    rw [directed v some, directed _ (length ▸ mul_pos positive some), ray]
  · have still : ¬ 0 < (v.scale s).norm := by
      rw [length, mul_pos_iff_of_pos_left positive]
      exact some
    rw [undirected v some, undirected _ still]

-- What is kept for the direction of a unit vector.
structure ShortestArc (b : Bearing ℝ) (u : Vec3 ℝ) : Prop where
  unit : b.rotation.IsUnit
  level : b.rotation.z = 0
  exact : 1e-10 ≤ 1 + u.z → 0 < b.rotation.w ∧ b.direction = u
  below : 1 + u.z < 1e-10 → b.direction = ⟨0, 0, -1⟩ ∧ (b.direction - u).norm < 1.5e-5

theorem arc_kept (v : Vec3 ℝ) (some : v ≠ Vec3.zero) :
    ∃ b, ofDirection? v = .ok b ∧ b.ShortestArc (v.divide v.norm) := by
  have positive := space_norm_positive v some
  have found := directed v positive
  have whole := unit_divide v positive
  obtain ⟨unit, kept⟩ := direction_kept v _ found
  refine ⟨_, found, unit, arc_level _, fun away => ?_, fun cap => ?_⟩
  · have off := not_lt.mpr away
    exact ⟨arc_positive _ off, kept.trans (kept_off_cap _ off)⟩
  · rw [kept]
    exact ⟨if_pos cap, kept_close _ whole⟩

theorem shortest_arc (v : Vec3 ℝ) :
    (ofDirection? v = .error .degenerateBearing ↔ v = Vec3.zero) ∧
      (v ≠ Vec3.zero → ∃ b, ofDirection? v = .ok b ∧ b.ShortestArc (v.divide v.norm)) ∧
      ∀ s, 0 < s → ofDirection? (v.scale s) = ofDirection? v :=
  ⟨zero_undirected v, arc_kept v, scaled_directed v⟩

-- One vector off the cap, once more at double length, and one on the cap.
theorem arcs_found :
    (∃ b, ofDirection? (⟨1, 2, 2⟩ : Vec3 ℝ) = .ok b ∧ b.direction = ⟨1 / 3, 2 / 3, 2 / 3⟩ ∧
      ofDirection? (⟨2, 4, 4⟩ : Vec3 ℝ) = .ok b) ∧
      ∃ b, ofDirection? lowPoint = .ok b ∧ b.direction = ⟨0, 0, -1⟩ := by
  have length : (⟨1, 2, 2⟩ : Vec3 ℝ).norm = 3 := by
    rw [Vec3.norm, real_sqrt, Real.sqrt_eq_iff_mul_self_eq_of_pos (by norm_num)]
    norm_num [Vec3.normSq, Vec3.dot]
  have low : lowPoint.norm = 40000000001 := by
    rw [Vec3.norm, real_sqrt, Real.sqrt_eq_iff_mul_self_eq_of_pos (by norm_num)]
    norm_num [Vec3.normSq, Vec3.dot, lowPoint]
  have double : (⟨1, 2, 2⟩ : Vec3 ℝ).scale 2 = ⟨2, 4, 4⟩ := by
    norm_num [Vec3.scale]
  obtain ⟨_, kept, scaled⟩ := shortest_arc ⟨1, 2, 2⟩
  obtain ⟨b, found, arc⟩ := kept (by norm_num [Vec3.zero])
  obtain ⟨c, below, cap⟩ := (shortest_arc lowPoint).2.1 (by norm_num [Vec3.zero, lowPoint])
  rw [length] at arc
  rw [low] at cap
  refine ⟨⟨b, found, ?_, ?_⟩, c, below, (cap.below ?_).1⟩
  · exact (arc.exact (by norm_num [Vec3.divide])).2
  · rw [← double, scaled 2 two_pos, found]
  · norm_num [Vec3.divide, lowPoint]

end Bearing

end LandmarkMap
