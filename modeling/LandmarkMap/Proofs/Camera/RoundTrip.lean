import LandmarkMap.Proofs.Camera.ArcLenses

set_option autoImplicit false

namespace LandmarkMap

section Seen

variable (c : Pinhole ℝ) (p : Vec3 ℝ) (seen : Projection c.distortion.kind.count ℝ) (n : Vec2 ℝ)

-- A pixel in the image comes from a point in front of the camera.
theorem visible_pixel (projected : c.project p = .ok seen) (visible : seen.outcome = .visible)
    (there : n = ⟨p.x / p.z, p.y / p.z⟩) : seen.keypoint = c.intrinsics.pixel (c.distortion.distort n) := by
  by_cases front : 0 < p.z
  · have same : imagePoint p = n := by rw [imagePoint, mul_one_div, mul_one_div, there]
    have sees := project_sees c c.intrinsics c.distortion.parameters p front
    rw [← Except.ok.inj (sees.symm.trans projected), pixelOf, same]
  · have behind := project_behind c c.intrinsics c.distortion.parameters p front
    rw [← Except.ok.inj (behind.symm.trans projected)] at visible
    cases visible

theorem visible_back (projected : c.project p = .ok seen) (visible : seen.outcome = .visible)
    (there : n = ⟨p.x / p.z, p.y / p.z⟩) (ray : Vec3 ℝ) :
    c.backProject? seen.keypoint = some ray ↔
      ray.z = 1 ∧ c.distortion.undistort? (c.distortion.distort n) = some ⟨ray.x, ray.y⟩ := by
  rw [Pinhole.backProject?, back_project_ray, visible_pixel c p seen n projected visible there, on_plane_pixel]
  rfl

end Seen

theorem visible_projection_undone (c : Pinhole ℝ) (p : Vec3 ℝ) (seen : Projection c.distortion.kind.count ℝ) (n : Vec2 ℝ)
    (projected : c.project p = .ok seen) (visible : seen.outcome = .visible) (there : n = ⟨p.x / p.z, p.y / p.z⟩) :
    (c.distortion.kind = .ideal ∨ c.distortion.distort n = n → c.backProject? seen.keypoint = some ⟨n.x, n.y, 1⟩) ∧
      (∀ ray, c.backProject? seen.keypoint = some ray → ray.z = 1 ∧
        (c.distortion.distort ⟨ray.x, ray.y⟩ - c.distortion.distort n).norm < 1e-9 ∧
        ((⟨ray.x, ray.y⟩ - n).norm ≤ 1000 * (c.distortion.distort ⟨ray.x, ray.y⟩ - c.distortion.distort n).norm →
          (⟨ray.x, ray.y⟩ - n).norm < 1e-6)) ∧
      ((∃ stretch, 1 / 500 ≤ stretch ∧ c.distortion.TameAt n stretch) ∨
        (∃ k1 k2 p1 p2 radius, c.distortion = .radialTangential k1 k2 p1 p2 ∧
          RadialTangential.MildAt k1 k2 p1 p2 radius n) ∨
        (∃ w, c.distortion = .fieldOfView w ∧ FieldOfView.MildAt w n) →
        ∃ ray, c.backProject? seen.keypoint = some ray ∧ ray.z = 1 ∧ (⟨ray.x, ray.y⟩ - n).norm < 1e-6) := by
  have back := visible_back c p seen n projected visible there
  have undone : ∀ stretch, 1 / 500 ≤ stretch → c.distortion.TameAt n stretch →
      ∃ ray, c.backProject? seen.keypoint = some ray ∧ ray.z = 1 ∧ (⟨ray.x, ray.y⟩ - n).norm < 1e-6 := by
    intro stretch enough tame
    obtain ⟨found, done, close⟩ := tame_undistorted c.distortion n stretch tame enough
    exact ⟨⟨found.x, found.y, 1⟩, (back _).mpr ⟨rfl, done⟩, rfl, close⟩
  refine ⟨fun still => ?_, fun ray done => ?_, ?_⟩
  · have fixed : c.distortion.distort n = n := still.elim (ideal_distort c.distortion n) id
    rw [back, fixed]
    exact ⟨rfl, still_undistorted c.distortion n fixed⟩
  · obtain ⟨depth, found⟩ := (back ray).mp done
    have close : (c.distortion.distort ⟨ray.x, ray.y⟩ - c.distortion.distort n).norm < 1e-9 :=
      undistort_close _ _ _ _ found
    refine ⟨depth, close, fun apart => apart.trans_lt ?_⟩
    norm_num at close ⊢
    linarith
  · rintro (⟨stretch, enough, tame⟩ | ⟨k1, k2, p1, p2, radius, lens, mild⟩ | ⟨w, lens, mild⟩)
    · exact undone stretch enough tame
    · exact undone (1 / 2) (by norm_num) (lens ▸ mild_lens_tame k1 k2 p1 p2 radius n mild)
    · exact undone (1 / 2) (by norm_num) (lens ▸ mild_arc_tame w n mild)

section Axial

variable (lens : Distortion ℝ) (image : Vec2 ℝ)

theorem axial_visible (p : Vec3 ℝ) (front : 0 < p.z) (there : lens.distort ⟨p.x / p.z, p.y / p.z⟩ = image)
    (wide : |image.x| < 16) (high : |image.y| < 12) :
    ∃ seen, (axialCamera lens).project p = .ok seen ∧ seen.outcome = .visible ∧
      seen.keypoint = ⟨20 * image.x + 320, 20 * image.y + 240⟩ := by
  have pixel : pixelOf (axialCamera lens).intrinsics lens p = ⟨20 * image.x + 320, 20 * image.y + 240⟩ := by
    rw [pixelOf, imagePoint, mul_one_div, mul_one_div, there]
    rfl
  have sees : (axialCamera lens).sees ⟨20 * image.x + 320, 20 * image.y + 240⟩ = true := by
    rw [abs_lt] at wide high
    have right : 20 * image.x + 320 < ((640 : ℕ) : ℝ) := by
      push_cast
      linarith
    have bottom : 20 * image.y + 240 < ((480 : ℕ) : ℝ) := by
      push_cast
      linarith
    simp only [Pinhole.sees, Bool.and_eq_true]
    exact ⟨⟨⟨decide_eq_true (by linarith), decide_eq_true (by linarith)⟩, decide_eq_true right⟩, decide_eq_true bottom⟩
  have outcome := project_sees (axialCamera lens) (axialCamera lens).intrinsics (axialCamera lens).distortion.parameters p front
  refine ⟨_, outcome, ?_, pixel⟩
  exact if_pos ((congrArg (axialCamera lens).sees pixel).trans sees)

theorem axial_back (bent : lens.kind ≠ .ideal) :
    (axialCamera lens).backProject? ⟨20 * image.x + 320, 20 * image.y + 240⟩ =
      (lens.refine? Mat.solve2? image 20 image).map fun m => ⟨m.x, m.y, 1⟩ := by
  have there : (axialCamera lens).onPlane ⟨20 * image.x + 320, 20 * image.y + 240⟩ = image :=
    on_plane_pixel (axialCamera lens) image
  rw [Pinhole.backProject?, Pinhole.backProjectWith?]
  change (lens.undistortWith? _ ((axialCamera lens).onPlane _)).map _ = _
  rw [there, undistort_bent _ _ _ bent]

end Axial

theorem mild_lenses_undone :
    (∃ seen ray, (axialCamera (.radialTangential (-1 / 4) 0 0 0)).project ⟨2, 0, 4⟩ = .ok seen ∧ seen.outcome = .visible ∧
      (axialCamera (.radialTangential (-1 / 4) 0 0 0)).backProject? seen.keypoint = some ray ∧ ray.z = 1 ∧
      (⟨ray.x, ray.y⟩ - ⟨1 / 2, 0⟩ : Vec2 ℝ).norm < 1e-6) ∧
      ∃ seen ray, (axialCamera (.fieldOfView (2 * Real.arctan (1 / 5)))).project ⟨2, 0, 4⟩ = .ok seen ∧
        seen.outcome = .visible ∧
        (axialCamera (.fieldOfView (2 * Real.arctan (1 / 5)))).backProject? seen.keypoint = some ray ∧ ray.z = 1 ∧
        (⟨ray.x, ray.y⟩ - ⟨1 / 2, 0⟩ : Vec2 ℝ).norm < 1e-6 := by
  have there : (⟨1 / 2, 0⟩ : Vec2 ℝ) = ⟨2 / 4, 0 / 4⟩ := by norm_num
  have length : (⟨1 / 2, 0⟩ : Vec2 ℝ).norm = 1 / 2 := axis_norm (1 / 2) (by norm_num)
  constructor
  · have image : (Distortion.radialTangential (-1 / 4 : ℝ) 0 0 0).distort ⟨2 / 4, 0 / 4⟩ = ⟨15 / 32, 0⟩ := by
      rw [← there, axis_distort]
      norm_num
    obtain ⟨seen, projected, visible, _⟩ := axial_visible _ _ ⟨2, 0, 4⟩ (by norm_num) image (by norm_num [abs_lt]) (by norm_num)
    have mild : bend (-1 / 4) 0 0 0 (7 / 12) ≤ 1 / 2 := by
      rw [bend, abs_zero, abs_of_neg (by norm_num)]
      norm_num
    obtain ⟨_, _, undone⟩ := visible_projection_undone _ ⟨2, 0, 4⟩ seen ⟨1 / 2, 0⟩ projected visible there
    obtain ⟨ray, found, depth, close⟩ := undone <| .inr <| .inl
      ⟨-1 / 4, 0, 0, 0, 7 / 12, rfl, by norm_num, by norm_num, by rw [length]; norm_num, mild⟩
    exact ⟨seen, ray, projected, visible, found, depth, close⟩
  · have shift : 4 * ((Distortion.fieldOfView (2 * Real.arctan (1 / 5))).distort ⟨1 / 2, 0⟩ - ⟨1 / 2, 0⟩).norm ≤ 1 / 2 :=
      (mild_shift _ _ narrow_arc_mild).trans_eq length
    have near := plane_triangle ((Distortion.fieldOfView (2 * Real.arctan (1 / 5))).distort ⟨1 / 2, 0⟩) ⟨1 / 2, 0⟩
    obtain ⟨first, second⟩ := plane_coordinates ((Distortion.fieldOfView (2 * Real.arctan (1 / 5))).distort ⟨1 / 2, 0⟩)
    rw [there] at shift near first second length
    obtain ⟨seen, projected, visible, _⟩ := axial_visible (.fieldOfView (2 * Real.arctan (1 / 5))) _ ⟨2, 0, 4⟩ (by norm_num) rfl
      (by linarith) (by linarith)
    obtain ⟨_, _, undone⟩ := visible_projection_undone _ ⟨2, 0, 4⟩ seen ⟨1 / 2, 0⟩ projected visible there
    obtain ⟨ray, found, depth, close⟩ := undone <| .inr <| .inr ⟨_, rfl, narrow_arc_mild⟩
    exact ⟨seen, ray, projected, visible, found, depth, close⟩

-- Without a pivot in the first column there is no step.
theorem solve_flat (s : ℝ) (b : Vec2 ℝ) : Mat.solve2? ⟨#v[#v[0, 0], #v[0, s]]⟩ b = none := by
  have level : ¬ (Scalar.abs (0 : ℝ) < Scalar.abs 0) := lt_irrefl _
  have zero : ((0 : ℝ) == 0) = true := decide_eq_true rfl
  simp only [Mat.solve2?]
  change (if ((if Scalar.abs (0 : ℝ) < Scalar.abs 0 then _ else _ : Vec2 ℝ × Vec2 ℝ)).1.x == 0 then _ else _) = _
  rw [if_neg level]
  exact if_pos zero

theorem axis_jacobian (k1 k2 x : ℝ) :
    (Distortion.radialTangential k1 k2 0 0).pointJacobian ⟨x, 0⟩ =
      ⟨#v[#v[1 + 3 * k1 * x ^ 2 + 5 * k2 * x ^ 4, 0], #v[0, 1 + k1 * x ^ 2 + k2 * x ^ 4]]⟩ := by
  simp [Distortion.pointJacobian, Distortion.radialTangential, RadialTangential.pointJacobian]
  constructor <;> ring

-- A lens that folds the plane shows two points at one pixel, and the search finds the other one,
-- or meets the fold on its way.
theorem folded_lens_misleads :
    (∃ seen, (axialCamera (.radialTangential (-1) 0 0 0)).project ⟨1, 0, 1⟩ = .ok seen ∧ seen.outcome = .visible ∧
      (axialCamera (.radialTangential (-1) 0 0 0)).backProject? seen.keypoint = some ⟨0, 0, 1⟩ ∧
      1e-6 < (⟨0, 0⟩ - ⟨1 / 1, 0 / 1⟩ : Vec2 ℝ).norm) ∧
      ∃ seen, (axialCamera (.radialTangential (-9 / 2) (5 / 2) 0 0)).project ⟨-1, 0, 1⟩ = .ok seen ∧
        seen.outcome = .visible ∧
        (axialCamera (.radialTangential (-9 / 2) (5 / 2) 0 0)).backProject? seen.keypoint = none := by
  constructor
  · have image : (Distortion.radialTangential (-1 : ℝ) 0 0 0).distort ⟨1 / 1, 0 / 1⟩ = ⟨0, 0⟩ := by
      rw [div_one, div_one, axis_distort]
      norm_num
    obtain ⟨seen, projected, visible, pixel⟩ := axial_visible _ _ ⟨1, 0, 1⟩ (by norm_num) image (by norm_num) (by norm_num)
    refine ⟨seen, projected, visible, ?_, ?_⟩
    · have fixed : (Distortion.radialTangential (-1 : ℝ) 0 0 0).distort ⟨0, 0⟩ = ⟨0, 0⟩ := by rw [axis_distort, zero_mul]
      rw [pixel, axial_back _ _ DistortionKind.noConfusion, refine_still _ _ fixed 19]
      rfl
    · refine lt_of_lt_of_le ?_ (plane_coordinates (⟨0, 0⟩ - ⟨1 / 1, 0 / 1⟩)).1
      change 1e-6 < |(0 - 1 / 1 : ℝ)|
      norm_num
  · have image : (Distortion.radialTangential (-9 / 2 : ℝ) (5 / 2) 0 0).distort ⟨-1 / 1, 0 / 1⟩ = ⟨1, 0⟩ := by
      rw [div_one, div_one, axis_distort]
      norm_num
    obtain ⟨seen, projected, visible, pixel⟩ := axial_visible _ _ ⟨-1, 0, 1⟩ (by norm_num) image (by norm_num) (by norm_num)
    refine ⟨seen, projected, visible, ?_⟩
    have missed : (Distortion.radialTangential (-9 / 2 : ℝ) (5 / 2) 0 0).distort ⟨1, 0⟩ - ⟨1, 0⟩ = ⟨-2, 0⟩ := by
      rw [axis_distort]
      change (⟨_ - 1, 0 - 0⟩ : Vec2 ℝ) = _
      norm_num
    have slope : (1 : ℝ) + 3 * (-9 / 2) * 1 ^ 2 + 5 * (5 / 2) * 1 ^ 4 = 0 := by norm_num
    rw [pixel, axial_back _ _ DistortionKind.noConfusion, Distortion.refine?, missed,
      if_neg (by norm_num [Vec2.normSq, Vec2.dot, Distortion.stepTolerance]), axis_jacobian, slope, solve_flat]
    rfl

end LandmarkMap
