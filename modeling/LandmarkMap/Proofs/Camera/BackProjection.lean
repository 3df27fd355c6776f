import LandmarkMap.Proofs.Camera.Projection
import LandmarkMap.Proofs.Exact.Planes

set_option autoImplicit false

namespace LandmarkMap

theorem ideal_distort (d : Distortion ℝ) (m : Vec2 ℝ) (straight : d.kind = .ideal) : d.distort m = m := by
  obtain ⟨kind, parameters⟩ := d
  cases straight
  rfl

section Search

variable (solve : Mat 2 2 ℝ → Vec2 ℝ → Option (Vec2 ℝ)) (d : Distortion ℝ) (target : Vec2 ℝ)

theorem undistort_ideal (straight : d.kind = .ideal) : d.undistortWith? solve target = some target := by
  rw [Distortion.undistortWith?, straight]

theorem undistort_bent (bent : d.kind ≠ .ideal) :
    d.undistortWith? solve target = d.refine? solve target 20 target := by
  rw [Distortion.undistortWith?]
  cases kind : d.kind with
  | ideal => exact absurd kind bent
  | radialTangential => rfl
  | fieldOfView => rfl

-- The check of an early exit is the stricter one.
theorem step_within_final (v : Vec2 ℝ) (small : v.normSq < (Distortion.stepTolerance : ℝ) * Distortion.stepTolerance) :
    v.norm < Distortion.finalTolerance := by
  have positive : (0 : ℝ) ≤ Distortion.stepTolerance := by norm_num [Distortion.stepTolerance]
  calc v.norm < Distortion.stepTolerance := (Real.sqrt_lt' (by norm_num [Distortion.stepTolerance])).mpr (by rw [sq]; exact small)
    _ < Distortion.finalTolerance := by norm_num [Distortion.stepTolerance, Distortion.finalTolerance]

-- Every exit of the search that returns a point has checked that very point, so nothing has to be
-- known of the steps that led to it.
theorem refine_close (steps : Nat) (m found : Vec2 ℝ) (done : d.refine? solve target steps m = some found) :
    (d.distort found - target).norm < Distortion.finalTolerance := by
  induction steps generalizing m with
  | zero =>
      by_cases close : (d.distort m - target).norm < Distortion.finalTolerance
      · rw [Distortion.refine?, if_pos close] at done
        exact Option.some.inj done ▸ close
      · rw [Distortion.refine?, if_neg close] at done
        cases done
  | succ steps ih =>
      rw [Distortion.refine?] at done
      by_cases early : (d.distort m - target).normSq < (Distortion.stepTolerance : ℝ) * Distortion.stepTolerance
      · rw [if_pos early] at done
        exact Option.some.inj done ▸ step_within_final _ early
      · rw [if_neg early] at done
        cases solved : solve (d.pointJacobian m) (d.distort m - target) with
        | none =>
            rw [solved] at done
            cases done
        | some step =>
            rw [solved] at done
            exact ih (m - step) done

theorem undistort_close (found : Vec2 ℝ) (done : d.undistortWith? solve target = some found) :
    (d.distort found - target).norm < Distortion.finalTolerance := by
  by_cases straight : d.kind = .ideal
  · rw [undistort_ideal solve d target straight] at done
    rw [← Option.some.inj done, ideal_distort d target straight, plane_norm, plane_point_sub, sub_self, norm_zero]
    norm_num [Distortion.finalTolerance]
  · rw [undistort_bent solve d target straight] at done
    exact refine_close solve d target 20 target found done

end Search

-- The point of the image plane that a pixel shows.
noncomputable def Pinhole.onPlane (c : Pinhole ℝ) (keypoint : Vec2 ℝ) : Vec2 ℝ :=
  ⟨(keypoint.x - c.cx) / c.fx, (keypoint.y - c.cy) / c.fy⟩

section Pixels

variable (c : Pinhole ℝ)

theorem pixel_on_plane (keypoint : Vec2 ℝ) : c.intrinsics.pixel (c.onPlane keypoint) = keypoint := by
  obtain ⟨⟨fx, fy⟩, _⟩ := c.focal
  simp only [Intrinsics.pixel, Pinhole.intrinsics, Pinhole.onPlane]
  rw [mul_div_cancel₀ _ fx.ne', mul_div_cancel₀ _ fy.ne', sub_add_cancel, sub_add_cancel]

theorem on_plane_pixel (m : Vec2 ℝ) : c.onPlane (c.intrinsics.pixel m) = m := by
  obtain ⟨⟨fx, fy⟩, _⟩ := c.focal
  simp only [Intrinsics.pixel, Pinhole.intrinsics, Pinhole.onPlane]
  rw [add_sub_cancel_right, add_sub_cancel_right, mul_div_cancel_left₀ _ fx.ne', mul_div_cancel_left₀ _ fy.ne']

theorem back_project_ray (solve : Mat 2 2 ℝ → Vec2 ℝ → Option (Vec2 ℝ)) (keypoint : Vec2 ℝ) (ray : Vec3 ℝ) :
    c.backProjectWith? solve keypoint = some ray ↔
      ray.z = 1 ∧ c.distortion.undistortWith? solve (c.onPlane keypoint) = some ⟨ray.x, ray.y⟩ := by
  rw [Pinhole.backProjectWith?, Option.map_eq_some_iff]
  constructor
  · rintro ⟨m, found, rfl⟩
    exact ⟨rfl, found⟩
  · rintro ⟨depth, found⟩
    refine ⟨_, found, ?_⟩
    rw [← depth]

theorem pixels_close (m target : Vec2 ℝ) (bound : ℝ) (close : (m - target).norm < bound) :
    |(c.intrinsics.pixel m).x - (c.intrinsics.pixel target).x| < c.fx * bound ∧
      |(c.intrinsics.pixel m).y - (c.intrinsics.pixel target).y| < c.fy * bound := by
  obtain ⟨⟨fx, fy⟩, _⟩ := c.focal
  obtain ⟨x, y⟩ := plane_coordinates (m - target)
  have first : (c.intrinsics.pixel m).x - (c.intrinsics.pixel target).x = c.fx * (m - target).x := by
    change c.fx * m.x + c.cx - (c.fx * target.x + c.cx) = c.fx * (m.x - target.x)
    ring
  have second : (c.intrinsics.pixel m).y - (c.intrinsics.pixel target).y = c.fy * (m - target).y := by
    change c.fy * m.y + c.cy - (c.fy * target.y + c.cy) = c.fy * (m.y - target.y)
    ring
  rw [first, second, abs_mul, abs_mul, abs_of_pos fx, abs_of_pos fy]
  exact ⟨mul_lt_mul_of_pos_left (x.trans_lt close) fx, mul_lt_mul_of_pos_left (y.trans_lt close) fy⟩

end Pixels

section Depth

variable (p : Vec3 ℝ) (l : ℝ) (positive : 0 < l)

include positive

theorem image_point_scale : imagePoint (p.scale l) = imagePoint p := by
  simp only [imagePoint, Vec3.scale, Vec2.mk.injEq]
  constructor <;> rw [mul_one_div, mul_one_div, mul_div_mul_right _ _ positive.ne']

theorem project_scale (c : Pinhole ℝ) :
    ∃ near far, c.project p = .ok near ∧ c.project (p.scale l) = .ok far ∧
      far.keypoint = near.keypoint ∧ far.outcome = near.outcome := by
  have depth : 0 < (p.scale l).z ↔ 0 < p.z := mul_pos_iff_of_pos_right positive
  by_cases front : 0 < p.z
  · have same : pixelOf c.intrinsics ⟨c.distortion.kind, c.distortion.parameters⟩ (p.scale l) =
        pixelOf c.intrinsics ⟨c.distortion.kind, c.distortion.parameters⟩ p := by
      rw [pixelOf, pixelOf, image_point_scale p l positive]
    exact ⟨_, _, project_sees c c.intrinsics c.distortion.parameters p front,
      project_sees c c.intrinsics c.distortion.parameters (p.scale l) (depth.mpr front), same,
      congrArg (fun keypoint => if c.sees keypoint then ProjectionOutcome.visible else .outsideImage) same⟩
  · exact ⟨_, _, project_behind c c.intrinsics c.distortion.parameters p front,
      project_behind c c.intrinsics c.distortion.parameters (p.scale l) (mt depth.mp front), rfl, rfl⟩

end Depth

theorem back_projection_sound (solve : Mat 2 2 ℝ → Vec2 ℝ → Option (Vec2 ℝ)) (c : Pinhole ℝ) (l : ℝ) (positive : 0 < l) :
    (∀ keypoint ray, c.backProjectWith? solve keypoint = some ray →
      ray.z = 1 ∧ ∃ seen, c.project (ray.scale l) = .ok seen ∧ seen.outcome.isValid = true ∧
        |seen.keypoint.x - keypoint.x| < c.fx * 1e-9 ∧ |seen.keypoint.y - keypoint.y| < c.fy * 1e-9 ∧
        (c.distortion.kind = .ideal → seen.keypoint = keypoint)) ∧
      ∀ p, ∃ near far, c.project p = .ok near ∧ c.project (p.scale l) = .ok far ∧
        far.keypoint = near.keypoint ∧ far.outcome = near.outcome := by
  refine ⟨fun keypoint ray done => ?_, fun p => project_scale p l positive c⟩
  obtain ⟨depth, found⟩ := (back_project_ray c solve keypoint ray).mp done
  have front : 0 < (ray.scale l).z := by
    change 0 < ray.z * l
    rw [depth, one_mul]
    exact positive
  obtain ⟨outcome, valid, projected⟩ := project_front c c.intrinsics c.distortion.parameters _ front
  have there : imagePoint (ray.scale l) = ⟨ray.x, ray.y⟩ := by
    rw [image_point_scale ray l positive, imagePoint, depth, one_div_one, mul_one, mul_one]
  have pixel : pixelOf c.intrinsics ⟨c.distortion.kind, c.distortion.parameters⟩ (ray.scale l) =
      c.intrinsics.pixel (c.distortion.distort ⟨ray.x, ray.y⟩) := by
    rw [pixelOf, there]
  have close := pixels_close c _ _ _ (undistort_close solve c.distortion _ _ found)
  rw [pixel_on_plane] at close
  refine ⟨depth, _, projected, valid, ?_⟩
  rw [pixel]
  refine ⟨close.1, close.2, fun straight => ?_⟩
  rw [undistort_ideal solve _ _ straight] at found
  rw [ideal_distort _ _ straight, ← Option.some.inj found, pixel_on_plane]

-- On an axis a lens without tangential part keeps to the axis.
theorem axis_distort (k1 k2 x : ℝ) :
    (Distortion.radialTangential k1 k2 0 0).distort ⟨x, 0⟩ = ⟨x * (1 + k1 * x ^ 2 + k2 * x ^ 4), 0⟩ := by
  simp only [Distortion.distort, Distortion.radialTangential, RadialTangential.distort, Vec2.mk.injEq]
  constructor
  · simp [-mul_eq_mul_left_iff]
    ring
  · simp

noncomputable def axialCamera (lens : Distortion ℝ) : Pinhole ℝ where
  name := "axial"
  width := 640
  height := 480
  fx := 20
  fy := 20
  cx := 320
  cy := 240
  distortion := lens
  focal := ⟨⟨by norm_num, by norm_num⟩, rfl, rfl⟩
  size := ⟨Nat.succ_ne_zero _, Nat.succ_ne_zero _⟩

-- A solver that answers the same whatever it is asked, and is lucky the first time.
def luckyStep (_ : Mat 2 2 ℝ) (_ : Vec2 ℝ) : Option (Vec2 ℝ) := some ⟨8, 0⟩

theorem lucky_found : (axialCamera (.radialTangential 1 0 0 0)).backProjectWith? luckyStep ⟨520, 240⟩ = some ⟨2, 0, 1⟩ := by
  rw [back_project_ray]
  refine ⟨rfl, ?_⟩
  have there : (axialCamera (.radialTangential 1 0 0 0)).onPlane ⟨520, 240⟩ = ⟨10, 0⟩ := by
    simp only [Pinhole.onPlane, axialCamera, Vec2.mk.injEq]
    norm_num
  have far : (Distortion.radialTangential (1 : ℝ) 0 0 0).distort ⟨10, 0⟩ - ⟨10, 0⟩ = ⟨1000, 0⟩ := by
    rw [axis_distort]
    change (⟨_ - 10, 0 - 0⟩ : Vec2 ℝ) = _
    norm_num
  have near : (Distortion.radialTangential (1 : ℝ) 0 0 0).distort ⟨2, 0⟩ - ⟨10, 0⟩ = ⟨0, 0⟩ := by
    rw [axis_distort]
    change (⟨_ - 10, 0 - 0⟩ : Vec2 ℝ) = _
    norm_num
  have stepped : (⟨10, 0⟩ - ⟨8, 0⟩ : Vec2 ℝ) = ⟨2, 0⟩ := by
    change (⟨10 - 8, 0 - 0⟩ : Vec2 ℝ) = _
    norm_num
  have bent : (axialCamera (.radialTangential 1 0 0 0)).distortion.kind ≠ .ideal := by decide
  rw [there, undistort_bent _ _ _ bent]
  change (Distortion.radialTangential (1 : ℝ) 0 0 0).refine? luckyStep ⟨10, 0⟩ 20 ⟨10, 0⟩ = _
  rw [Distortion.refine?, far, if_neg (by norm_num [Vec2.normSq, Vec2.dot, Distortion.stepTolerance])]
  simp only [luckyStep, stepped]
  have finite : Vec2.isFinite (⟨2, 0⟩ : Vec2 ℝ) = true := rfl
  rw [if_pos finite, Distortion.refine?, near, if_pos (by norm_num [Vec2.normSq, Vec2.dot, Distortion.stepTolerance])]

theorem lucky_step_sound :
    (0 : ℝ) < 5 ∧ (axialCamera (.radialTangential 1 0 0 0)).backProjectWith? luckyStep ⟨520, 240⟩ = some ⟨2, 0, 1⟩ ∧
      ∃ seen, (axialCamera (.radialTangential 1 0 0 0)).project (Vec3.scale ⟨2, 0, 1⟩ 5) = .ok seen ∧ seen.outcome.isValid = true ∧
        |seen.keypoint.x - 520| < 20 * 1e-9 ∧ |seen.keypoint.y - 240| < 20 * 1e-9 := by
  obtain ⟨sound, _⟩ := back_projection_sound luckyStep (axialCamera (.radialTangential 1 0 0 0)) 5 (by norm_num)
  obtain ⟨_, seen, projected, valid, first, second, _⟩ := sound ⟨520, 240⟩ ⟨2, 0, 1⟩ lucky_found
  exact ⟨by norm_num, lucky_found, seen, projected, valid, first, second⟩

end LandmarkMap
