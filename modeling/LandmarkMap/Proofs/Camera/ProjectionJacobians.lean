import LandmarkMap.Proofs.Camera.BackProjection
import LandmarkMap.Proofs.Geometry.Cholesky

set_option autoImplicit false

namespace LandmarkMap

open Filter Topology

variable (d : Distortion ℝ) (c : Pinhole ℝ)

theorem fitting_parameters (y : Fin d.kind.count → ℝ) : d.withParameters (List.ofFn y) = .ok (Vector.ofFn y) := by
  rw [← Vector.toList_ofFn, with_parameters_ok]

-- The pixel of a point, zero where there is none.
noncomputable def Pinhole.keypointBy (intrinsics distortion : List ℝ) (p : Vec3 ℝ) : Vec2 ℝ :=
  match c.projectWith intrinsics distortion p with
  | .ok seen => seen.keypoint
  | .error _ => Vec2.zero

theorem keypoint_by (x : Fin 4 → ℝ) (y : Fin c.distortion.kind.count → ℝ) (p : Vec3 ℝ) (front : 0 < p.z) :
    c.keypointBy (List.ofFn x) (List.ofFn y) p = pixelOf ⟨x 0, x 1, x 2, x 3⟩ ⟨c.distortion.kind, Vector.ofFn y⟩ p := by
  have listed : List.ofFn x = Intrinsics.toList ⟨x 0, x 1, x 2, x 3⟩ := rfl
  rw [Pinhole.keypointBy, listed, ← Vector.toList_ofFn, project_sees c _ _ p front]

-- Both matrices that a call writes are derivatives of the point that it returns.
structure Distortion.Differentiates (parameters : Fin d.kind.count → ℝ) (m : Vec2 ℝ) (inPoint : Mat 2 2 ℝ)
    (inParameters : Mat 2 d.kind.count ℝ) : Prop where
  writes : ∀ pointSlot parameterSlot, d.distortWith (List.ofFn parameters) m pointSlot parameterSlot =
    .ok ⟨Distortion.distort ⟨d.kind, Vector.ofFn parameters⟩ m, pointSlot.map fun _ => inPoint,
      parameterSlot.map fun _ => inParameters⟩
  byPoint : HasJacobian (fun x => (Distortion.distort ⟨d.kind, Vector.ofFn parameters⟩ (Vec2.of x)).get)
    inPoint.toMatrix m.get
  byParameters : HasJacobian (fun y => (Distortion.distort ⟨d.kind, Vector.ofFn y⟩ m).get) inParameters.toMatrix parameters

-- All three matrices that a call writes are derivatives of the pixel that it returns.
structure Pinhole.Differentiates (intrinsics : Fin 4 → ℝ) (distortion : Fin c.distortion.kind.count → ℝ) (p : Vec3 ℝ)
    (outcome : ProjectionOutcome) (derivatives : ProjectionJacobians c.distortion.kind.count ℝ) : Prop where
  valid : outcome.isValid = true
  writes : ∀ slot, c.projectInto (List.ofFn intrinsics) (List.ofFn distortion) p slot =
    .ok (c.keypointBy (List.ofFn intrinsics) (List.ofFn distortion) p, outcome, slot.map fun _ => derivatives)
  byPoint : HasJacobian (fun x => (c.keypointBy (List.ofFn intrinsics) (List.ofFn distortion) (Vec3.of x)).get)
    derivatives.point.toMatrix p.get
  byIntrinsics : HasJacobian (fun x => (c.keypointBy (List.ofFn x) (List.ofFn distortion) p).get)
    derivatives.intrinsics.toMatrix intrinsics
  byDistortion : HasJacobian (fun y => (c.keypointBy (List.ofFn intrinsics) (List.ofFn y) p).get)
    derivatives.distortion.toMatrix distortion

theorem lens_differentiates (y : Fin d.kind.count → ℝ) (m : Vec2 ℝ)
    (smooth : Distortion.Smooth ⟨d.kind, Vector.ofFn y⟩ m) :
    d.Differentiates y m (Distortion.pointJacobian ⟨d.kind, Vector.ofFn y⟩ m)
      (Distortion.parameterJacobian ⟨d.kind, Vector.ofFn y⟩ m) := by
  refine ⟨fun pointSlot parameterSlot => ?_, distort_point_jacobian _ m smooth, ?_⟩
  · rw [distort_with, fitting_parameters]
    rfl
  · have known := distort_parameter_jacobian ⟨d.kind, Vector.ofFn y⟩ m smooth
    rwa [vector_of_get] at known

theorem pixel_differentiates (x : Fin 4 → ℝ) (y : Fin c.distortion.kind.count → ℝ) (p : Vec3 ℝ) (front : 0 < p.z)
    (smooth : Distortion.Smooth ⟨c.distortion.kind, Vector.ofFn y⟩ (imagePoint p)) :
    ∃ outcome, c.Differentiates x y p outcome
      (Pinhole.jacobiansAt ⟨x 0, x 1, x 2, x 3⟩ ⟨c.distortion.kind, Vector.ofFn y⟩ p) := by
  let k : Intrinsics ℝ := ⟨x 0, x 1, x 2, x 3⟩
  let lens : Distortion ℝ := ⟨c.distortion.kind, Vector.ofFn y⟩
  have listed : List.ofFn x = k.toList := rfl
  obtain ⟨outcome, valid, projected⟩ := project_front c k (Vector.ofFn y) p front
  refine ⟨outcome, valid, fun slot => ?_, ?_, ?_, ?_⟩
  · rw [keypoint_by c x y p front, project_into, listed, ← Vector.toList_ofFn, projected]
    rfl
  · refine jacobian_near _ _ _ _ (projected_point_jacobian k lens p front smooth) ?_
    have depth : Tendsto (fun z : Fin 3 → ℝ => (Vec3.of z).z) (𝓝 p.get) (𝓝 p.z) := (continuous_apply 2).tendsto p.get
    filter_upwards [depth.eventually (lt_mem_nhds front)] with z front
    rw [keypoint_by c x y _ front]
  · refine jacobian_same _ _ _ _ (projected_intrinsics_jacobian k lens p x) fun z => ?_
    rw [keypoint_by c z y p front]
  · have known := projected_distortion_jacobian k lens p smooth
    rw [vector_of_get] at known
    refine jacobian_same _ _ _ _ known fun z => ?_
    rw [keypoint_by c x z p front]

theorem projection_jacobians_exact :
    (∀ (d : Distortion ℝ) parameters m pointSlot parameterSlot, d.distortWith parameters m pointSlot parameterSlot =
      (fun ps => ⟨Distortion.distort ⟨d.kind, ps⟩ m, pointSlot.map fun _ => Distortion.pointJacobian ⟨d.kind, ps⟩ m,
        parameterSlot.map fun _ => Distortion.parameterJacobian ⟨d.kind, ps⟩ m⟩) <$> d.withParameters parameters) ∧
    (∀ (c : Pinhole ℝ) intrinsics distortion p slot, c.projectInto intrinsics distortion p slot =
      (fun seen => (seen.keypoint, seen.outcome, slot.map fun before => seen.jacobians.getD before)) <$>
        c.projectWith intrinsics distortion p) ∧
    (∀ (d : Distortion ℝ) (parameters : Fin d.kind.count → ℝ) (m : Vec2 ℝ),
      Distortion.Smooth ⟨d.kind, Vector.ofFn parameters⟩ m →
        ∃ inPoint inParameters, d.Differentiates parameters m inPoint inParameters) ∧
    ∀ (c : Pinhole ℝ) (intrinsics : Fin 4 → ℝ) (distortion : Fin c.distortion.kind.count → ℝ) (p : Vec3 ℝ), 0 < p.z →
      Distortion.Smooth ⟨c.distortion.kind, Vector.ofFn distortion⟩ (imagePoint p) →
        ∃ outcome derivatives, c.Differentiates intrinsics distortion p outcome derivatives := by
  refine ⟨distort_with, project_into, fun d parameters m smooth => ⟨_, _, lens_differentiates d parameters m smooth⟩,
    fun c intrinsics distortion p front smooth => ?_⟩
  obtain ⟨outcome, exact⟩ := pixel_differentiates c intrinsics distortion p front smooth
  exact ⟨outcome, _, exact⟩

theorem bent_smooth (m : Vec2 ℝ) (radius : m.norm = 1) :
    Distortion.Smooth ⟨.fieldOfView, Vector.ofFn fun _ => 1⟩ m := by
  have small : (FieldOfView.small : ℝ) < 1 := by
    rw [FieldOfView.small]
    norm_num
  have angle : FieldOfView.angle (Vector.ofFn fun _ : Fin 1 => (1 : ℝ)) = 1 := Vector.getElem_ofFn _
  have half : (1 : ℝ) / 2 < Real.pi / 2 := by linarith [Real.two_le_pi]
  change |FieldOfView.angle (Vector.ofFn fun _ : Fin 1 => (1 : ℝ))| ≠ _ ∧ _ ∧
    Real.cos (FieldOfView.angle (Vector.ofFn fun _ : Fin 1 => (1 : ℝ)) / 2) ≠ 0
  rw [angle, radius, abs_one]
  exact ⟨small.ne', small.ne', (Real.cos_pos_of_mem_Ioo ⟨by linarith, half⟩).ne'⟩

theorem bent_pixel_differentiates :
    (∃ inPoint inParameters, (Distortion.fieldOfView 2).Differentiates (fun _ => 1) ⟨1, 0⟩ inPoint inParameters) ∧
      ∃ outcome derivatives, (axialCamera (.fieldOfView 2)).Differentiates ![400, 400, 320, 240] (fun _ => 1) ⟨1, 0, 1⟩
        outcome derivatives := by
  obtain ⟨_, _, lens, pixel⟩ := projection_jacobians_exact
  have side : (⟨1, 0⟩ : Vec2 ℝ).norm = 1 := by simp [Vec2.norm, Vec2.normSq, Vec2.dot]
  have ray : (imagePoint ⟨1, 0, 1⟩).norm = 1 := by simp [imagePoint, Vec2.norm, Vec2.normSq, Vec2.dot]
  exact ⟨lens _ _ _ (bent_smooth _ side), pixel _ _ _ _ one_pos (bent_smooth _ ray)⟩

end LandmarkMap
