import LandmarkMap.Proofs.Quality.Spread

set_option autoImplicit false

namespace LandmarkMap

section Points

variable (v w : Vec3 ℝ)

theorem space_triangle (u : Vec3 ℝ) : (v - w).norm ≤ (v - u).norm + (u - w).norm := by
  simp only [← point_distance]
  exact dist_triangle _ _ _

theorem space_norm_flip : (v - w).norm = (w - v).norm := by
  rw [← point_distance, ← point_distance, dist_comm]

theorem space_distance_zero : (v - w).norm = 0 ↔ v = w := by
  constructor
  · intro none
    by_contra apart
    exact (distance_positive v w apart).ne' none
  · rintro rfl
    rw [← point_distance, dist_self]

theorem norm_le_norm : v.norm ≤ w.norm ↔ v.normSq ≤ w.normSq := by
  rw [← norm_squared, ← norm_squared]
  exact mul_self_le_mul_self_iff (Real.sqrt_nonneg _) (Real.sqrt_nonneg _)

end Points

section Unit

variable (offset unit : Vec3 ℝ) (whole : unit.normSq = 1)

include whole

-- Pythagoras, with the right angle at the foot of the perpendicular.
theorem offset_split (t : ℝ) :
    (offset - unit.scale t).normSq =
      (offset - unit.scale (offset.dot unit)).normSq + (t - offset.dot unit) ^ 2 := by
  rw [sub_coordinates, sub_coordinates]
  simp only [Vec3.normSq, Vec3.dot, Vec3.scale] at whole ⊢
  linear_combination
    (t ^ 2 - (offset.x * unit.x + offset.y * unit.y + offset.z * unit.z) ^ 2) * whole

-- Before the origin the foot is out of reach, and the origin is nearest.
theorem foot_nearest (t : ℝ) (ahead : 0 ≤ t) :
    (offset - unit.scale (max 0 (offset.dot unit))).norm ≤ (offset - unit.scale t).norm := by
  rw [norm_le_norm, offset_split offset unit whole, offset_split offset unit whole t]
  gcongr 1
  rcases le_total (offset.dot unit) 0 with behind | beside
  · rw [max_eq_left behind]
    nlinarith
  · rw [max_eq_right beside, sub_self, zero_pow two_ne_zero]
    positivity

end Unit

section HalfLine

variable (p q origin direction : Vec3 ℝ)

-- How far a point is from the place that the half-line has reached at `t`.
noncomputable def Rays.apart (t : ℝ) : ℝ := (p - (origin + direction.scale t)).norm

-- What is left of the offset from the origin beside the half-line.
noncomputable def Rays.clearance : ℝ :=
  (p - origin - (direction.divide direction.norm).scale
    (max 0 ((p - origin).dot (direction.divide direction.norm)))).norm

theorem apart_zero (t : ℝ) : Rays.apart p origin direction t = 0 ↔ p = origin + direction.scale t :=
  space_distance_zero _ _

theorem apart_scaled (s t : ℝ) : Rays.apart p origin (direction.scale s) t = Rays.apart p origin direction (s * t) := by
  rw [Rays.apart, Rays.apart]
  congr 2
  apply space_ext
  rw [space_get_add, space_get_add, space_get_scale, space_get_scale, space_get_scale, smul_smul, mul_comm]

theorem apart_moved (t : ℝ) : Rays.apart p origin direction t ≤ (p - q).norm + Rays.apart q origin direction t :=
  space_triangle _ _ _

theorem scaled_reach (s : ℝ) (positive : 0 < s) :
    Rays.apart p origin (direction.scale s) '' Set.Ici 0 = Rays.apart p origin direction '' Set.Ici 0 := by
  ext d
  constructor
  · rintro ⟨t, ahead, rfl⟩
    exact ⟨s * t, mul_nonneg positive.le ahead, (apart_scaled p origin direction s t).symm⟩
  · rintro ⟨t, ahead, rfl⟩
    refine ⟨t / s, div_nonneg ahead positive.le, ?_⟩
    rw [apart_scaled, mul_div_cancel₀ t positive.ne']

theorem scaled_direction (some : direction ≠ Vec3.zero) (s : ℝ) (positive : 0 < s) : direction.scale s ≠ Vec3.zero := by
  intro none
  apply some
  have coordinates := congrArg Vec3.get none
  rw [space_get_scale, space_get_zero, smul_eq_zero_iff_right positive.ne'] at coordinates
  exact space_ext _ _ (coordinates.trans space_get_zero.symm)

variable (some : direction ≠ Vec3.zero)

include some

theorem apart_unit (t : ℝ) :
    Rays.apart p origin direction t =
      (p - origin - (direction.divide direction.norm).scale (direction.norm * t)).norm := by
  have length := (space_norm_positive direction some).ne'
  rw [Rays.apart]
  congr 1
  apply space_ext
  simp only [space_get_sub, space_get_add, space_get_scale, space_get_divide, smul_smul]
  rw [mul_right_comm, mul_inv_cancel₀ length, one_mul, sub_add_eq_sub_sub]

-- The two cases of the computation are one: the foot, or the origin where the foot is not ahead.
theorem distance_clearance : Rays.distance p origin direction = .ok (Rays.clearance p origin direction) := by
  rw [Rays.distance, require_bind _ _ _ (space_norm_positive direction some), Rays.clearance]
  by_cases behind : (p - origin).dot (direction.divide direction.norm) ≤ 0
  · have still : p - origin - (direction.divide direction.norm).scale 0 = p - origin := by
      apply space_ext
      rw [space_get_sub, space_get_scale, zero_smul, sub_zero]
    simp only [if_pos behind]
    rw [max_eq_left behind, still]
    rfl
  · simp only [if_neg behind]
    rw [max_eq_right (not_le.mp behind).le]
    rfl

theorem clearance_least :
    IsLeast (Rays.apart p origin direction '' Set.Ici 0) (Rays.clearance p origin direction) := by
  have positive := space_norm_positive direction some
  constructor
  · refine ⟨max 0 ((p - origin).dot (direction.divide direction.norm)) / direction.norm, ?_, ?_⟩
    · exact div_nonneg (le_max_left _ _) positive.le
    · rw [apart_unit p origin direction some, mul_div_cancel₀ _ positive.ne']
      rfl
  · rintro _ ⟨t, ahead, rfl⟩
    rw [apart_unit p origin direction some]
    exact foot_nearest _ _ (unit_divide direction positive) _ (mul_nonneg positive.le ahead)

theorem clearance_scaled (s : ℝ) (positive : 0 < s) :
    Rays.clearance p origin (direction.scale s) = Rays.clearance p origin direction := by
  have least := clearance_least p origin (direction.scale s) (scaled_direction direction some s positive)
  rw [scaled_reach p origin direction s positive] at least
  exact least.unique (clearance_least p origin direction some)

theorem clearance_zero : Rays.clearance p origin direction = 0 ↔ ∃ t, 0 ≤ t ∧ p = origin + direction.scale t := by
  have least := clearance_least p origin direction some
  constructor
  · intro none
    obtain ⟨t, ahead, reached⟩ := least.1
    exact ⟨t, ahead, (apart_zero p origin direction t).mp (reached.trans none)⟩
  · rintro ⟨t, ahead, on⟩
    apply le_antisymm
    · exact (apart_zero p origin direction t).mpr on ▸ least.2 ⟨t, ahead, rfl⟩
    · exact Real.sqrt_nonneg _

theorem clearance_moved : Rays.clearance p origin direction ≤ (p - q).norm + Rays.clearance q origin direction := by
  obtain ⟨t, ahead, reached⟩ := (clearance_least q origin direction some).1
  calc Rays.clearance p origin direction ≤ Rays.apart p origin direction t :=
        (clearance_least p origin direction some).2 ⟨t, ahead, rfl⟩
    _ ≤ (p - q).norm + Rays.apart q origin direction t := apart_moved p q origin direction t
    _ = (p - q).norm + Rays.clearance q origin direction := by rw [reached]

end HalfLine

theorem half_line_distance (p origin direction : Vec3 ℝ) (some : direction ≠ Vec3.zero) :
    ∃ d, Rays.distance p origin direction = .ok d ∧
      IsLeast ((fun t => (p - (origin + direction.scale t)).norm) '' Set.Ici 0) d ∧
      (∀ s, 0 < s → Rays.distance p origin (direction.scale s) = .ok d) ∧
      (d = 0 ↔ ∃ t, 0 ≤ t ∧ p = origin + direction.scale t) ∧
      ∀ q, ∃ e, Rays.distance q origin direction = .ok e ∧ |d - e| ≤ (p - q).norm := by
  refine ⟨_, distance_clearance p origin direction some, clearance_least p origin direction some, fun s positive => ?_,
    clearance_zero p origin direction some, fun q => ⟨_, distance_clearance q origin direction some, ?_⟩⟩
  · rw [distance_clearance _ _ _ (scaled_direction direction some s positive),
      clearance_scaled p origin direction some s positive]
  · have forth := clearance_moved p q origin direction some
    have back := clearance_moved q p origin direction some
    rw [space_norm_flip q p] at back
    exact abs_le.mpr ⟨by linarith, by linarith⟩

-- A point of the line that lies behind the origin is not on the half-line.
theorem behind_origin_apart :
    (⟨0, 0, 2⟩ : Vec3 ℝ) ≠ Vec3.zero ∧
      ∃ d, Rays.distance (⟨0, 0, -1⟩ : Vec3 ℝ) Vec3.zero ⟨0, 0, 2⟩ = .ok d ∧ d ≠ 0 ∧
        ∀ s, 0 < s → Rays.distance (⟨0, 0, -1⟩ : Vec3 ℝ) Vec3.zero (Vec3.scale ⟨0, 0, 2⟩ s) = .ok d := by
  have some : (⟨0, 0, 2⟩ : Vec3 ℝ) ≠ Vec3.zero := by
    intro none
    exact two_ne_zero (congrArg Vec3.z none)
  obtain ⟨d, found, _, scaled, on, _⟩ := half_line_distance ⟨0, 0, -1⟩ Vec3.zero ⟨0, 0, 2⟩ some
  refine ⟨some, d, found, fun none => ?_, scaled⟩
  obtain ⟨t, ahead, same⟩ := on.mp none
  have depth : (-1 : ℝ) = 0 + 2 * t := congrArg Vec3.z same
  linarith

end LandmarkMap
