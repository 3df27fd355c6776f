import LandmarkMap.Proofs.Camera.Distortion
import LandmarkMap.Camera.Pinhole
import LandmarkMap.Proofs.Outcome

set_option autoImplicit false

namespace LandmarkMap

section Calls

variable {α : Type} [Scalar α]

theorem fov_distort_into (w : α) (m : Vec2 α) (point : Option (Mat 2 2 α)) (parameters : Option (Mat 2 1 α)) :
    FieldOfView.distortInto w m point parameters =
      ⟨FieldOfView.distort w m, point.map fun _ => FieldOfView.pointJacobian w m,
        parameters.map fun _ => FieldOfView.parameterJacobian w m⟩ := by
  rw [FieldOfView.distortInto, FieldOfView.distort]
  unfold FieldOfView.pointJacobian FieldOfView.parameterJacobian
  split
  · rfl
  · rfl

theorem distort_into (d : Distortion α) (m : Vec2 α) (point : Option (Mat 2 2 α))
    (parameters : Option (Mat 2 d.kind.count α)) :
    d.distortInto m point parameters =
      ⟨d.distort m, point.map fun _ => d.pointJacobian m, parameters.map fun _ => d.parameterJacobian m⟩ := by
  obtain ⟨kind, ps⟩ := d
  cases kind with
  | ideal => rfl
  | radialTangential => rfl
  | fieldOfView => exact fov_distort_into _ m point parameters

-- What is asked for does not show in the point.
theorem distort_with (d : Distortion α) (parameters : List α) (m : Vec2 α) (point : Option (Mat 2 2 α))
    (byParameters : Option (Mat 2 d.kind.count α)) :
    d.distortWith parameters m point byParameters =
      (fun ps => ⟨Distortion.distort ⟨d.kind, ps⟩ m, point.map fun _ => Distortion.pointJacobian ⟨d.kind, ps⟩ m,
        byParameters.map fun _ => Distortion.parameterJacobian ⟨d.kind, ps⟩ m⟩) <$> d.withParameters parameters := by
  rw [Distortion.distortWith]
  cases d.withParameters parameters with
  | error fault => rfl
  | ok ps => exact congrArg Except.ok (distort_into ⟨d.kind, ps⟩ m point byParameters)

theorem derivatives_from (k : Intrinsics α) (d : Distortion α) (p : Vec3 α) :
    let m : Vec2 α := ⟨p.x * (1 / p.z), p.y * (1 / p.z)⟩
    Pinhole.derivativesFrom k p (d.distort m) (d.pointJacobian m) (d.parameterJacobian m) = Pinhole.jacobiansAt k d p := rfl

-- Nor in the pixel.
theorem project_into (c : Pinhole α) (intrinsics distortion : List α) (p : Vec3 α)
    (slot : Option (ProjectionJacobians c.distortion.kind.count α)) :
    c.projectInto intrinsics distortion p slot =
      (fun seen => (seen.keypoint, seen.outcome, slot.map fun before => seen.jacobians.getD before)) <$>
        c.projectWith intrinsics distortion p := by
  have untouched : slot = slot.map fun before => Option.getD none before := by
    cases slot with
    | none => rfl
    | some before => rfl
  rw [Pinhole.projectInto, Pinhole.projectWith]
  cases Intrinsics.ofList? intrinsics with
  | error fault => rfl
  | ok k =>
      rw [ok_bind, ok_bind]
      by_cases finite : p.isFinite = false
      · rw [if_pos finite, if_pos finite]
        exact congrArg (fun after => Except.ok (Vec2.zero, ProjectionOutcome.invalid, after)) untouched
      · rw [if_neg finite, if_neg finite]
        by_cases behind : p.z ≤ 0
        · rw [if_pos behind, if_pos behind]
          exact congrArg (fun after => Except.ok (Vec2.zero, ProjectionOutcome.behindCamera, after)) untouched
        · rw [if_neg behind, if_neg behind]
          simp only [Distortion.distortWith]
          cases c.distortion.withParameters distortion with
          | error fault => rfl
          | ok ps =>
              simp only [ok_bind, pure_bind, distort_into]
              split
              · exact congrArg (fun after => Except.ok (_, ProjectionOutcome.invalid, after)) untouched
              · cases slot with
                | none =>
                    simp only [Option.map_none, map_pure]
                | some before =>
                    simp only [Option.map_some, Option.getD_some, map_pure, derivatives_from]

end Calls

open Filter Matrix Topology

-- The point of the image plane on the ray to a point in front of the camera.
noncomputable def imagePoint (p : Vec3 ℝ) : Vec2 ℝ := ⟨p.x * (1 / p.z), p.y * (1 / p.z)⟩

noncomputable def pixelOf (k : Intrinsics ℝ) (d : Distortion ℝ) (p : Vec3 ℝ) : Vec2 ℝ := k.pixel (d.distort (imagePoint p))

theorem image_point_jacobian (p : Vec3 ℝ) (front : 0 < p.z) :
    HasJacobian (fun x => (imagePoint (Vec3.of x)).get)
      !![1 / p.z, 0, -p.x * (1 / p.z) * (1 / p.z); 0, 1 / p.z, -p.y * (1 / p.z) * (1 / p.z)] p.get := by
  have inverse := (hasDerivAt_const p.z (1 : ℝ)).div (hasDerivAt_id p.z) front.ne'
  have depth := inverse.comp_hasFDerivAt p.get (coordinate_derivative 2 p.get)
  have first := (coordinate_derivative 0 p.get).mul depth
  have second := (coordinate_derivative 1 p.get).mul depth
  refine jacobian_rows _ _ _ ![_, _] (Fin.forall_fin_two.mpr ⟨first, second⟩) ?_
  intro i k
  have nonzero : p.z ≠ 0 := front.ne'
  fin_cases i <;> fin_cases k <;> simp [Vec3.get] <;> field_simp

theorem pixel_jacobian (k : Intrinsics ℝ) (m : Fin 2 → ℝ) :
    HasJacobian (fun x => (k.pixel (Vec2.of x)).get) k.focal.toMatrix m := by
  have affine := jacobian_shift _ _ m ![k.cx, k.cy] (jacobian_linear k.focal.toMatrix m)
  refine jacobian_same _ _ _ _ affine fun x => ?_
  funext i
  fin_cases i
  · change k.fx * x 0 + k.cx = (∑ j, k.focal.get 0 j * x j) + k.cx
    rw [Fin.sum_univ_two]
    change _ = k.fx * x 0 + 0 * x 1 + k.cx
    rw [zero_mul, add_zero]
  · change k.fy * x 1 + k.cy = (∑ j, k.focal.get 1 j * x j) + k.cy
    rw [Fin.sum_univ_two]
    change _ = 0 * x 0 + k.fy * x 1 + k.cy
    rw [zero_mul, zero_add]

theorem projected_point_jacobian (k : Intrinsics ℝ) (d : Distortion ℝ) (p : Vec3 ℝ) (front : 0 < p.z)
    (smooth : d.Smooth (imagePoint p)) :
    HasJacobian (fun x => (pixelOf k d (Vec3.of x)).get) (Pinhole.jacobiansAt k d p).point.toMatrix p.get := by
  have lens := jacobian_chain _ _ _ _ p.get (distort_point_jacobian d (imagePoint p) smooth) (image_point_jacobian p front)
  have pixel := jacobian_chain _ _ _ _ p.get (pixel_jacobian k _) lens
  refine jacobian_congr _ _ _ _ pixel ?_
  have byPoint : (⟨#v[#v[1 / p.z, 0, -p.x * (1 / p.z) * (1 / p.z)], #v[0, 1 / p.z, -p.y * (1 / p.z) * (1 / p.z)]]⟩ :
      Mat 2 3 ℝ).toMatrix =
      !![1 / p.z, 0, -p.x * (1 / p.z) * (1 / p.z); 0, 1 / p.z, -p.y * (1 / p.z) * (1 / p.z)] := by
    ext i j
    fin_cases i <;> fin_cases j <;> rfl
  rw [Pinhole.jacobiansAt, matrix_mul, matrix_mul, byPoint, Matrix.mul_assoc]
  rfl

-- A pixel is linear in the focal lengths and the principal point.
theorem projected_intrinsics_jacobian (k : Intrinsics ℝ) (d : Distortion ℝ) (p : Vec3 ℝ) (x : Fin 4 → ℝ) :
    HasJacobian (fun x => (pixelOf ⟨x 0, x 1, x 2, x 3⟩ d p).get) (Pinhole.jacobiansAt k d p).intrinsics.toMatrix x := by
  refine jacobian_same _ _ _ _ (jacobian_linear _ x) fun y => ?_
  funext i
  fin_cases i <;>
    simp [pixelOf, imagePoint, Intrinsics.pixel, Pinhole.jacobiansAt, Vec2.get, Mat.get, mulVec, dotProduct,
      Fin.sum_univ_four] <;>
    ring

theorem projected_distortion_jacobian (k : Intrinsics ℝ) (d : Distortion ℝ) (p : Vec3 ℝ)
    (smooth : d.Smooth (imagePoint p)) :
    HasJacobian (fun x => (pixelOf k ⟨d.kind, Vector.ofFn x⟩ p).get) (Pinhole.jacobiansAt k d p).distortion.toMatrix
      d.parameters.get := by
  have lens := distort_parameter_jacobian d (imagePoint p) smooth
  have pixel := jacobian_chain _ _ _ _ d.parameters.get (pixel_jacobian k _) lens
  refine jacobian_congr _ _ _ _ pixel ?_
  rw [Pinhole.jacobiansAt, matrix_mul]
  rfl

theorem with_parameters_ok (d : Distortion ℝ) (ps : Vector ℝ d.kind.count) : d.withParameters ps.toList = .ok ps := by
  have same : ps.toList.toArray.size = d.kind.count := by simp
  rw [Distortion.withParameters, dif_pos same]
  congr 1

theorem project_behind (c : Pinhole ℝ) (k : Intrinsics ℝ) (ps : Vector ℝ c.distortion.kind.count) (p : Vec3 ℝ)
    (behind : ¬ 0 < p.z) : c.projectWith k.toList ps.toList p = .ok ⟨Vec2.zero, .behindCamera, none⟩ := by
  have finite : ¬ (p.isFinite = false) := Bool.noConfusion
  rw [Pinhole.projectWith, Intrinsics.toList, Intrinsics.ofList?, ok_bind, if_neg finite, if_pos (not_lt.mp behind)]
  rfl

theorem project_sees (c : Pinhole ℝ) (k : Intrinsics ℝ) (ps : Vector ℝ c.distortion.kind.count) (p : Vec3 ℝ)
    (front : 0 < p.z) :
    c.projectWith k.toList ps.toList p =
      .ok ⟨pixelOf k ⟨c.distortion.kind, ps⟩ p,
        if c.sees (pixelOf k ⟨c.distortion.kind, ps⟩ p) then .visible else .outsideImage,
        some (Pinhole.jacobiansAt k ⟨c.distortion.kind, ps⟩ p)⟩ := by
  have finite : ¬ (p.isFinite = false) := Bool.noConfusion
  have kept : ¬ ((pixelOf k ⟨c.distortion.kind, ps⟩ p).isFinite = false) := Bool.noConfusion
  rw [Pinhole.projectWith, Intrinsics.toList, Intrinsics.ofList?, ok_bind, if_neg finite, if_neg (not_le.mpr front),
    with_parameters_ok, ok_bind]
  exact if_neg kept

theorem project_front (c : Pinhole ℝ) (k : Intrinsics ℝ) (ps : Vector ℝ c.distortion.kind.count) (p : Vec3 ℝ)
    (front : 0 < p.z) :
    ∃ outcome : ProjectionOutcome, outcome.isValid = true ∧
      c.projectWith k.toList ps.toList p =
        .ok ⟨pixelOf k ⟨c.distortion.kind, ps⟩ p, outcome, some (Pinhole.jacobiansAt k ⟨c.distortion.kind, ps⟩ p)⟩ := by
  refine ⟨_, ?_, project_sees c k ps p front⟩
  split <;> rfl

section Sized

variable {α : Type}

theorem sized_intrinsics (values : List α) (size : values.length = 4) : ∃ k, Intrinsics.ofList? values = .ok k := by
  match values, size with
  | [fx, fy, cx, cy], _ => exact ⟨⟨fx, fy, cx, cy⟩, rfl⟩

variable [Scalar α]

-- A pixel comes with its derivatives.
theorem sized_projection (c : Pinhole α) (intrinsics distortion : List α) (p : Vec3 α) (four : intrinsics.length = 4)
    (count : distortion.length = c.distortion.kind.count) :
    ∃ projection, c.projectWith intrinsics distortion p = .ok projection ∧
      (projection.outcome.isValid = true → ∃ derivatives, projection.jacobians = some derivatives) := by
  obtain ⟨k, read⟩ := sized_intrinsics intrinsics four
  have parameters : c.distortion.withParameters distortion = .ok ⟨distortion.toArray, count⟩ := dif_pos count
  rw [Pinhole.projectWith, read, ok_bind]
  by_cases finite : p.isFinite = false
  · rw [if_pos finite]
    exact ⟨_, rfl, fun valid => (by cases valid)⟩
  · rw [if_neg finite]
    by_cases behind : p.z ≤ 0
    · rw [if_pos behind]
      exact ⟨_, rfl, fun valid => (by cases valid)⟩
    · rw [if_neg behind, parameters, ok_bind]
      dsimp only
      split
      · exact ⟨_, rfl, fun valid => (by cases valid)⟩
      · exact ⟨_, rfl, fun _ => ⟨_, rfl⟩⟩

theorem project_defined (c : Pinhole α) (p : Vec3 α) : ∃ projection, c.project p = .ok projection := by
  obtain ⟨projection, projected, _⟩ := sized_projection c c.intrinsics.toList c.distortionParameters p rfl Vector.length_toList
  exact ⟨projection, projected⟩

end Sized

-- The camera of the default settings.
def plainCamera : Pinhole Float := ⟨default, by decide +kernel, by decide +kernel⟩

end LandmarkMap
