import LandmarkMap.Proofs.Geometry.Bearings
import LandmarkMap.Proofs.Solver.ReprojectionJacobians
import LandmarkMap.Proofs.Triangulation.Recovery

set_option autoImplicit false

namespace LandmarkMap

section Residual

variable (e : ReprojectionError ℝ) (s : ReprojectionState ℝ) (k : Intrinsics ℝ) (ps : Vector ℝ e.camera.distortion.kind.count)
  (described : e.Describes s k ps)

include described

theorem residual_written (defined : s.Defined) (front : 0 < s.inCamera.z) (buffers : Buffers ℝ) (fits : e.term.Fits buffers) :
    ∃ after, e.evaluate (e.blocks s) buffers = .ok (true, after) ∧
      after.residuals = (e.residualAt k ps s.inCamera).toList ++ buffers.residuals.drop 2 := by
  obtain ⟨after, done⟩ := e.evaluate_fits s k ps described defined front buffers fits
  have room : (e.residualAt k ps s.inCamera).toList.length ≤ buffers.residuals.length := fits.residuals
  refine ⟨after, done, ?_⟩
  rw [e.evaluate_front s k ps described defined front, answerWith, write_front_ok _ _ room, ok_bind] at done
  cases asked : buffers.jacobians with
  | none =>
      simp only [asked] at done
      cases done
      rfl
  | some slots =>
      simp only [asked] at done
      obtain ⟨filled, _, last⟩ := (bind_ok _ _ _).mp done
      cases last
      rfl

end Residual

-- An anchor from which a point is neither here nor in the direction that no shortest rotation reaches.
structure Vec3.AnchorOf (anchor p : Vec3 ℝ) : Prop where
  apart : p ≠ anchor
  away : 1e-10 ≤ 1 + ((p - anchor).divide (p - anchor).norm).z

theorem anchor_encodes (anchor p : Vec3 ℝ) (anchors : anchor.AnchorOf p) :
    ∃ seen, InverseDepth.ofPoint? p anchor = .ok seen ∧ seen.Reaches anchor p := by
  obtain ⟨bearing, _, encoded⟩ := anchored p anchor ⟨distance_positive p anchor anchors.apart, rfl⟩
  exact ⟨_, encoded, anchored_returns p anchor _ encoded anchors.away⟩

-- A picture that a camera on a body took, and what the intrinsics and the lens are now taken to be.
structure Shot where
  camera : Pinhole ℝ
  measurement : Vec2 ℝ
  pixelSigma : ℝ
  positive : 0 < pixelSigma
  body : Pose ℝ
  rigid : body.IsRigid
  mount : Pose ℝ
  mounted : mount.IsRigid
  intrinsics : Intrinsics ℝ
  lens : Vector ℝ camera.distortion.kind.count

namespace Shot

variable (shot : Shot)

-- The pose of the camera on the body is optimized, or it is a constant.
def modes : List (Extrinsics ℝ) := [.optimized, .fixed shot.mount]

noncomputable def error (mode : Extrinsics ℝ) : ReprojectionError ℝ :=
  ⟨shot.measurement, shot.pixelSigma, shot.positive, shot.camera, mode⟩

def state (anchor : Vec3 ℝ) (seen : InverseDepth ℝ) : ReprojectionState ℝ where
  anchor := anchor
  bearing := seen.bearing.rotation
  inverseDepth := seen.inverseDepth
  bodyRotation := shot.body.rotation
  bodyPosition := shot.body.position
  cameraRotation := shot.mount.rotation
  cameraPosition := shot.mount.position
  intrinsics := shot.intrinsics.toList
  distortion := shot.lens.toList

-- The blocks of a landmark that is kept by an anchor.
noncomputable def parameters (mode : Extrinsics ℝ) (anchor : Vec3 ℝ) (seen : InverseDepth ℝ) : List (List ℝ) :=
  (shot.error mode).blocks (shot.state anchor seen)

noncomputable def inCamera (p : Vec3 ℝ) : Vec3 ℝ := (shot.mount * shot.body.inverse).apply p

noncomputable def image (p : Vec3 ℝ) : Except (Fault ℝ) (Projection shot.camera.distortion.kind.count ℝ) :=
  shot.camera.projectWith shot.intrinsics.toList shot.lens.toList (shot.inCamera p)

theorem image_defined (p : Vec3 ℝ) : ∃ projection, shot.image p = .ok projection := by
  by_cases front : 0 < (shot.inCamera p).z
  · exact ⟨_, project_sees shot.camera shot.intrinsics shot.lens _ front⟩
  · exact ⟨_, project_behind shot.camera shot.intrinsics shot.lens _ front⟩

-- How far the image is from where it was measured.
noncomputable def miss (keypoint : Vec2 ℝ) : Vec2 ℝ := (keypoint - shot.measurement).divide shot.pixelSigma

variable (anchor p : Vec3 ℝ) (seen : InverseDepth ℝ) (reaches : seen.Reaches anchor p)

theorem describes (mode : Extrinsics ℝ) (member : mode ∈ shot.modes) :
    (shot.error mode).Describes (shot.state anchor seen) shot.intrinsics shot.lens := by
  refine ⟨rfl, rfl, fun pose same => ?_⟩
  rcases List.mem_cons.mp member with optimized | rest
  · cases optimized.symm.trans same
  · cases (List.mem_singleton.mp rest).symm.trans same
    exact ⟨rfl, rfl⟩

theorem in_camera : shot.inCamera p = shot.mount.apply (shot.body.applyInverse p) := by
  rw [inCamera, product_apply _ _ _ shot.mounted (rigid_inverse _ shot.rigid), inverse_apply _ _ shot.rigid]

include reaches

theorem defined : (shot.state anchor seen).Defined := by
  have turned : shot.body.rotation.norm = 1 := shot.rigid
  have fixed : shot.mount.rotation.norm = 1 := shot.mounted
  have bearing : seen.bearing.rotation.norm = 1 := reaches.unit
  exact ⟨reaches.deep, ⟨turned.symm ▸ one_pos, fixed.symm ▸ one_pos⟩, bearing.symm ▸ ReprojectionError.tolerance_below_one⟩

theorem state_in_body : (shot.state anchor seen).inBody = shot.body.applyInverse p := by
  apply space_ext
  rw [ReprojectionState.inBody, act_get, Pose.applyInverse, rotate_get _ (unit_conj _ shot.rigid), conj_rotation,
    ← reaches.returns, ReprojectionState.bodyMat]
  change (shot.body.rotation.normalize.toMat).transpose.toMatrix.mulVec _ = _
  rw [unit_normalize _ shot.rigid]
  rfl

-- Where the landmark is in the camera does not show how it is kept.
theorem state_in_camera : (shot.state anchor seen).inCamera = shot.inCamera p := by
  apply space_ext
  rw [ReprojectionState.inCamera, shot.state_in_body anchor p seen reaches, space_get_add, act_get, in_camera, Pose.apply,
    space_get_add, rotate_get _ shot.mounted, ReprojectionState.cameraMat]
  change (shot.mount.rotation.normalize.toMat).toMatrix.mulVec _ + _ = _
  rw [unit_normalize _ shot.mounted]
  rfl

theorem evaluates (projection : Projection shot.camera.distortion.kind.count ℝ) (projected : shot.image p = .ok projection)
    (mode : Extrinsics ℝ) (member : mode ∈ shot.modes) (buffers : Buffers ℝ) (fits : (shot.error mode).term.Fits buffers) :
    ∃ after, (shot.error mode).evaluate (shot.parameters mode anchor seen) buffers = .ok (projection.outcome.isValid, after) ∧
      if projection.outcome.isValid then
        after.residuals = (shot.miss projection.keypoint).toList ++ buffers.residuals.drop 2
      else after = buffers := by
  have described := shot.describes anchor seen mode member
  have inside := shot.state_in_camera anchor p seen reaches
  by_cases front : 0 < (shot.state anchor seen).inCamera.z
  · obtain ⟨after, done, written⟩ := residual_written _ _ _ _ described (shot.defined anchor p seen reaches) front buffers fits
    rw [inside] at front written
    obtain ⟨outcome, valid, image⟩ := project_front shot.camera shot.intrinsics shot.lens (shot.inCamera p) front
    cases projected.symm.trans image
    exact ⟨after, valid ▸ done, (if_pos valid).mpr written⟩
  · have left := (shot.error mode).evaluate_undefined _ _ _ described (fun possible => front possible.2) buffers
    rw [inside] at front
    cases projected.symm.trans (project_behind shot.camera shot.intrinsics shot.lens (shot.inCamera p) front)
    exact ⟨buffers, left, rfl⟩

theorem residual (projection : Projection shot.camera.distortion.kind.count ℝ) (projected : shot.image p = .ok projection)
    (mode : Extrinsics ℝ) (member : mode ∈ shot.modes) :
    ResidualBlock.residual? ⟨shot.error mode, shot.parameters mode anchor seen⟩ =
      .ok (if projection.outcome.isValid then some (shot.miss projection.keypoint) else none) := by
  obtain ⟨after, done, written⟩ :=
    shot.evaluates anchor p seen reaches projection projected mode member (Buffers.plain 2) (plain_fits (shot.error mode).term)
  rw [ResidualBlock.residual?, done, ok_bind]
  cases valid : projection.outcome.isValid with
  | true =>
      rw [valid, if_pos rfl] at written
      simp only [written]
      rfl
  | false => rfl

end Shot

-- Nothing of the residual shows how the landmark is kept: neither the anchor, nor whether the pose of
-- the camera is a constant.
theorem anchored_evaluation_projects (shot : Shot) (p : Vec3 ℝ) :
    ∃ projection, shot.image p = .ok projection ∧
      (∀ anchor : Vec3 ℝ, anchor.AnchorOf p → ∃ seen, InverseDepth.ofPoint? p anchor = .ok seen ∧
        ∀ mode ∈ shot.modes, ∀ buffers, (shot.error mode).term.Fits buffers →
          ∃ after, (shot.error mode).evaluate (shot.parameters mode anchor seen) buffers =
              .ok (projection.outcome.isValid, after) ∧
            if projection.outcome.isValid then
              after.residuals = (shot.miss projection.keypoint).toList ++ buffers.residuals.drop 2
            else after = buffers) ∧
      ∀ a b : Vec3 ℝ, a.AnchorOf p → b.AnchorOf p → ∀ fromA fromB, InverseDepth.ofPoint? p a = .ok fromA →
        InverseDepth.ofPoint? p b = .ok fromB → ∀ mode ∈ shot.modes, ∀ other ∈ shot.modes,
          ResidualBlock.residual? ⟨shot.error mode, shot.parameters mode a fromA⟩ =
            ResidualBlock.residual? ⟨shot.error other, shot.parameters other b fromB⟩ := by
  obtain ⟨projection, projected⟩ := shot.image_defined p
  refine ⟨projection, projected, fun anchor anchors => ?_, ?_⟩
  · obtain ⟨seen, encoded, reaches⟩ := anchor_encodes anchor p anchors
    exact ⟨seen, encoded, shot.evaluates anchor p seen reaches projection projected⟩
  · intro a b anchorsA anchorsB fromA fromB encodedA encodedB mode member other member'
    have reachesA := anchored_returns p a fromA encodedA anchorsA.away
    have reachesB := anchored_returns p b fromB encodedB anchorsB.away
    rw [shot.residual a p fromA reachesA projection projected mode member,
      shot.residual b p fromB reachesB projection projected other member']

theorem raised_anchor (anchor p : Vec3 ℝ) (apart : p ≠ anchor) (above : 0 ≤ (p - anchor).z) : anchor.AnchorOf p := by
  have up : 0 ≤ ((p - anchor).divide (p - anchor).norm).z := div_nonneg above (Real.sqrt_nonneg _)
  refine ⟨apart, ?_⟩
  calc (1e-10 : ℝ) ≤ 1 := by norm_num
    _ ≤ _ := le_add_of_nonneg_right up

-- A body and a camera on it that are turned against each other, and the camera off the body.
noncomputable def turnedShot : Shot where
  camera := idealCamera
  measurement := ⟨320, 300⟩
  pixelSigma := 2
  positive := by norm_num
  body := ⟨thirdTurn, ⟨1, 2, 3⟩⟩
  rigid := third_turn_unit
  mount := ⟨thirdTurn.conj, ⟨0, 0, 1⟩⟩
  mounted := unit_conj _ third_turn_unit
  intrinsics := idealCamera.intrinsics
  lens := idealCamera.distortion.parameters

theorem turned_in_camera : turnedShot.inCamera ⟨2, 5, 3⟩ = ⟨0, 1, 4⟩ := by
  rw [turnedShot.in_camera, Pose.apply, Pose.applyInverse]
  change thirdTurn.conj.rotate (thirdTurn.conj.rotate (⟨2, 5, 3⟩ - ⟨1, 2, 3⟩)) + ⟨0, 0, 1⟩ = _
  rw [turn_back, turn_back, sub_coordinates, add_coordinates]
  norm_num

theorem turned_image :
    ∃ projection, turnedShot.image ⟨2, 5, 3⟩ = .ok projection ∧ projection.outcome.isValid = true ∧
      turnedShot.miss projection.keypoint = ⟨0, 20⟩ := by
  obtain ⟨outcome, valid, image⟩ := project_front turnedShot.camera turnedShot.intrinsics turnedShot.lens
    (turnedShot.inCamera ⟨2, 5, 3⟩) (by rw [turned_in_camera]; norm_num)
  refine ⟨_, image, valid, ?_⟩
  rw [turned_in_camera]
  change (pixelOf idealCamera.intrinsics ⟨idealCamera.distortion.kind, idealCamera.distortion.parameters⟩ ⟨0, 1, 4⟩ -
    ⟨320, 300⟩).divide 2 = _
  rw [ideal_pixel]
  change (⟨(400 * (0 * (1 / 4)) + 320 - 320) / 2, (400 * (1 * (1 / 4)) + 240 - 300) / 2⟩ : Vec2 ℝ) = _
  norm_num

theorem turned_shot_projects :
    (⟨1, 2, 3⟩ : Vec3 ℝ).AnchorOf ⟨2, 5, 3⟩ ∧ (⟨2, 5, 0⟩ : Vec3 ℝ).AnchorOf ⟨2, 5, 3⟩ ∧
      ∃ level below, InverseDepth.ofPoint? ⟨2, 5, 3⟩ ⟨1, 2, 3⟩ = .ok level ∧
        InverseDepth.ofPoint? ⟨2, 5, 3⟩ ⟨2, 5, 0⟩ = .ok below ∧
        (∃ after, (turnedShot.error .optimized).evaluate (turnedShot.parameters .optimized ⟨1, 2, 3⟩ level)
            (Buffers.plain 2) = .ok (true, after) ∧ after.residuals = [0, 20]) ∧
        ResidualBlock.residual? ⟨turnedShot.error .optimized, turnedShot.parameters .optimized ⟨1, 2, 3⟩ level⟩ =
          ResidualBlock.residual? ⟨turnedShot.error (.fixed turnedShot.mount),
            turnedShot.parameters (.fixed turnedShot.mount) ⟨2, 5, 0⟩ below⟩ := by
  have beside : (⟨1, 2, 3⟩ : Vec3 ℝ).AnchorOf ⟨2, 5, 3⟩ :=
    raised_anchor _ _ (by norm_num) (by norm_num [sub_coordinates])
  have under : (⟨2, 5, 0⟩ : Vec3 ℝ).AnchorOf ⟨2, 5, 3⟩ :=
    raised_anchor _ _ (by norm_num) (by norm_num [sub_coordinates])
  have optimized : Extrinsics.optimized ∈ turnedShot.modes := List.mem_cons_self
  have fixed : Extrinsics.fixed turnedShot.mount ∈ turnedShot.modes := List.mem_cons_of_mem _ (List.mem_singleton.mpr rfl)
  obtain ⟨projection, image, each, agree⟩ := anchored_evaluation_projects turnedShot ⟨2, 5, 3⟩
  obtain ⟨projection', image', valid, miss⟩ := turned_image
  cases Except.ok.inj (image.symm.trans image')
  obtain ⟨level, encoded, evaluates⟩ := each ⟨1, 2, 3⟩ beside
  obtain ⟨below, encoded', _⟩ := each ⟨2, 5, 0⟩ under
  obtain ⟨after, done, written⟩ :=
    evaluates .optimized optimized (Buffers.plain 2) (plain_fits (turnedShot.error .optimized).term)
  rw [valid] at done
  rw [if_pos valid, miss] at written
  exact ⟨beside, under, level, below, encoded, encoded', ⟨after, done, written⟩,
    agree _ _ beside under level below encoded encoded' .optimized optimized _ fixed⟩

end LandmarkMap
