import LandmarkMap.Proofs.Camera.Projection
import LandmarkMap.Proofs.Solver.Updates
import LandmarkMap.Solver.Reprojection

set_option autoImplicit false

namespace LandmarkMap

open Matrix

namespace ReprojectionError

section Layout

variable {α : Type} [Scalar α]

-- The parameter blocks that hold a state.
def blocks (e : ReprojectionError α) (s : ReprojectionState α) : List (List α) :=
  [s.anchor.toList, s.bearing.toList, [s.inverseDepth], s.bodyRotation.toList, s.bodyPosition.toList] ++
    (match e.extrinsics with
      | .optimized => [s.cameraRotation.toList, s.cameraPosition.toList]
      | .fixed _ => []) ++
    [s.intrinsics] ++ (if 0 < e.camera.distortion.kind.count then [s.distortion] else [])

def jacobians {k : Nat} (e : ReprojectionError α) (s : ReprojectionState α) (p : ProjectionJacobians k α) :
    List (BlockJacobian 2 α) :=
  [⟨0, 3, e.byMissionPoint s p⟩, ⟨1, 4, e.bearingJacobian s p⟩, ⟨2, 1, e.inverseDepthJacobian s p⟩,
    ⟨3, 4, e.bodyRotationJacobian s p⟩, ⟨4, 3, -e.byMissionPoint s p⟩] ++
    (match e.extrinsics with
      | .optimized => [⟨5, 4, e.cameraRotationJacobian s p⟩, ⟨6, 3, e.byCameraPoint p⟩]
      | .fixed _ => []) ++
    [⟨e.intrinsicsBlock, 4, p.intrinsics.scale (1 / e.pixelSigma)⟩] ++
    (match e.distortionBlock with
      | some block => [⟨block, k, p.distortion.scale (1 / e.pixelSigma)⟩]
      | none => [])

-- Rotations move along the unit quaternions, the bearing along the sphere, all else along the axes.
def updates (e : ReprojectionError α) : List (Parameterization α) :=
  [.euclideanOf 3, .bearing, .euclideanOf 1, .quaternion, .euclideanOf 3] ++
    (match e.extrinsics with
      | .optimized => [.quaternion, .euclideanOf 3]
      | .fixed _ => []) ++
    [.euclideanOf 4] ++
    (if 0 < e.camera.distortion.kind.count then [.euclideanOf e.camera.distortion.kind.count] else [])

-- The blocks that hold unit quaternions.
def rotationBlocks (e : ReprojectionError α) : List Nat :=
  [1, 3] ++
    match e.extrinsics with
    | .optimized => [5]
    | .fixed _ => []

theorem distortion_block (e : ReprojectionError α) :
    e.distortionBlock = if 0 < e.camera.distortion.kind.count then some (e.intrinsicsBlock + 1) else none := by
  rw [distortionBlock, intrinsicsBlock, blockSizes]
  by_cases some : 0 < e.camera.distortion.kind.count
  · cases e.extrinsics <;> simp [some]
  · cases e.extrinsics <;> simp [some]

theorem update_sizes (e : ReprojectionError α) : e.updates.map (·.globalSize) = e.blockSizes := by
  rw [updates, blockSizes]
  by_cases some : 0 < e.camera.distortion.kind.count
  · cases e.extrinsics <;> simp only [if_pos some] <;> rfl
  · cases e.extrinsics <;> simp only [if_neg some] <;> rfl

theorem block_lengths (e : ReprojectionError α) (s : ReprojectionState α) (intrinsics : s.intrinsics.length = 4)
    (distortion : s.distortion.length = e.camera.distortion.kind.count) : (e.blocks s).map List.length = e.blockSizes := by
  rw [blocks, blockSizes]
  by_cases some : 0 < e.camera.distortion.kind.count
  · cases e.extrinsics <;> simp only [if_pos some, List.map_append, List.map_cons, List.map_nil, intrinsics, distortion] <;> rfl
  · cases e.extrinsics <;> simp only [if_neg some, List.map_append, List.map_cons, List.map_nil, intrinsics] <;> rfl

theorem fill_slots_all {k : Nat} (e : ReprojectionError α) (s : ReprojectionState α) (p : ProjectionJacobians k α)
    (slots : List (Option (List α))) : e.fillSlots s p slots = fillAll slots (e.jacobians s p) := by
  rw [fillSlots, jacobians]
  generalize e.distortionBlock = last
  cases e.extrinsics <;> cases last <;> simp [fillAll]

theorem jacobian_blocks {k : Nat} (e : ReprojectionError α) (s : ReprojectionState α) (p : ProjectionJacobians k α) :
    (e.jacobians s p).map (·.block) = List.range e.updates.length := by
  rw [jacobians, updates, distortion_block, intrinsicsBlock]
  by_cases some : 0 < e.camera.distortion.kind.count
  · cases e.extrinsics <;> simp only [if_pos some] <;> rfl
  · cases e.extrinsics <;> simp only [if_neg some] <;> rfl

theorem jacobian_sizes (e : ReprojectionError α) (s : ReprojectionState α)
    (p : ProjectionJacobians e.camera.distortion.kind.count α) :
    (e.jacobians s p).map (fun j => (j.size, j.block)) = e.blockSizes.zipIdx := by
  rw [jacobians, blockSizes, distortion_block, intrinsicsBlock]
  by_cases some : 0 < e.camera.distortion.kind.count
  · cases e.extrinsics <;> simp only [if_pos some] <;> rfl
  · cases e.extrinsics <;> simp only [if_neg some] <;> rfl

theorem blocks_camera_rotation (e : ReprojectionError α) (s : ReprojectionState α) (q : Quaternion α)
    (optimized : e.extrinsics = .optimized) : (e.blocks s).set 5 q.toList = e.blocks { s with cameraRotation := q } := by
  rw [blocks, blocks, optimized]
  rfl

theorem blocks_camera_position (e : ReprojectionError α) (s : ReprojectionState α) (p : Vec3 α)
    (optimized : e.extrinsics = .optimized) : (e.blocks s).set 6 p.toList = e.blocks { s with cameraPosition := p } := by
  rw [blocks, blocks, optimized]
  rfl

theorem blocks_intrinsics (e : ReprojectionError α) (s : ReprojectionState α) (values : List α) :
    (e.blocks s).set e.intrinsicsBlock values = e.blocks { s with intrinsics := values } := by
  rw [blocks, blocks, intrinsicsBlock]
  cases e.extrinsics <;> rfl

theorem blocks_distortion (e : ReprojectionError α) (s : ReprojectionState α) (values : List α)
    (some : 0 < e.camera.distortion.kind.count) :
    (e.blocks s).set (e.intrinsicsBlock + 1) values = e.blocks { s with distortion := values } := by
  rw [blocks, blocks, intrinsicsBlock, if_pos some, if_pos some]
  cases e.extrinsics <;> rfl

end Layout

section Reading

variable {α : Type} [Scalar α]

-- The state is one that blocks of the declared sizes hold, and where the pose of the camera is a
-- constant, that constant.
structure Holds (e : ReprojectionError α) (s : ReprojectionState α) : Prop where
  intrinsics : s.intrinsics.length = 4
  distortion : s.distortion.length = e.camera.distortion.kind.count
  mounted : ∀ pose, e.extrinsics = .fixed pose → s.cameraRotation = pose.rotation ∧ s.cameraPosition = pose.position

variable (e : ReprojectionError α) (s : ReprojectionState α)

theorem intrinsics_held : (e.blocks s)[e.intrinsicsBlock]? = some s.intrinsics := by
  rw [blocks, intrinsicsBlock]
  cases e.extrinsics <;> rfl

theorem distortion_held (some : 0 < e.camera.distortion.kind.count) :
    (e.blocks s)[e.intrinsicsBlock + 1]? = .some s.distortion := by
  rw [blocks, intrinsicsBlock, if_pos some]
  cases e.extrinsics <;> rfl

variable (holds : e.Holds s)

include holds

theorem read_extrinsics : e.readExtrinsics (e.blocks s) = .ok (s.cameraRotation, s.cameraPosition) := by
  rw [readExtrinsics, blocks]
  cases mode : e.extrinsics with
  | optimized => rfl
  | fixed pose =>
      obtain ⟨rotation, position⟩ := holds.mounted pose mode
      rw [rotation, position]
      rfl

theorem read_blocks :
    e.readState? (e.blocks s) =
      if (e.blocks s).all (·.all Scalar.isFinite) = false then .ok none
      else if ¬ 0 < s.inverseDepth then .ok none
      else if ¬ (0 < s.bodyRotation.norm ∧ 0 < s.cameraRotation.norm) then .ok none
      else if ¬ bearingTolerance < s.bearing.norm then .ok none
      else .ok (some s) := by
  have anchor : (fetch (e.blocks s) 0 : Except (Fault α) _) = .ok s.anchor.toList := rfl
  have bearing : (fetch (e.blocks s) 1 : Except (Fault α) _) = .ok s.bearing.toList := rfl
  have depth : (fetch (e.blocks s) 2 : Except (Fault α) _) = .ok [s.inverseDepth] := rfl
  have rotation : (fetch (e.blocks s) 3 : Except (Fault α) _) = .ok s.bodyRotation.toList := rfl
  have position : (fetch (e.blocks s) 4 : Except (Fault α) _) = .ok s.bodyPosition.toList := rfl
  have inverse : (fetch [s.inverseDepth] 0 : Except (Fault α) α) = .ok s.inverseDepth := rfl
  have intrinsics : (fetch (e.blocks s) e.intrinsicsBlock : Except (Fault α) _) = .ok s.intrinsics :=
    (fetch_ok _ _ _).mpr (e.intrinsics_held s)
  rw [readState?, distortion_block]
  simp only [anchor, bearing, depth, rotation, position, inverse, intrinsics, quaternion_block, vector_block, ok_bind,
    e.read_extrinsics s holds]
  by_cases some : 0 < e.camera.distortion.kind.count
  · have lens : (fetch (e.blocks s) (e.intrinsicsBlock + 1) : Except (Fault α) _) = .ok s.distortion :=
      (fetch_ok _ _ _).mpr (e.distortion_held s some)
    simp only [if_pos some, lens, ok_bind]
    rfl
  · have none : s.distortion = [] := List.eq_nil_of_length_eq_zero (holds.distortion.trans (Nat.eq_zero_of_not_pos some))
    have empty : s = { s with distortion := [] } := by rw [← none]
    simp only [if_neg some]
    rw [empty]
    rfl

-- A state is read back, or it is found that there is no residual.
theorem read_settled : e.readState? (e.blocks s) = .ok none ∨ e.readState? (e.blocks s) = .ok (some s) := by
  rw [e.read_blocks s holds]
  split
  · exact .inl rfl
  split
  · exact .inl rfl
  split
  · exact .inl rfl
  split
  · exact .inl rfl
  exact .inr rfl

end Reading

section Outcomes

variable {α : Type} [Scalar α]

variable (e : ReprojectionError α) (parameters : List (List α)) (buffers : Buffers α)

theorem evaluate_unread (unread : e.readState? parameters = .ok none) :
    e.evaluate parameters buffers = .ok (false, buffers) := by
  rw [evaluate, unread, ok_bind]
  rfl

variable (s : ReprojectionState α) (read : e.readState? parameters = .ok (some s))
  (projection : Projection e.camera.distortion.kind.count α)
  (projected : e.camera.projectWith s.intrinsics s.distortion s.inCamera = .ok projection)

include read projected

theorem evaluate_unseen (unseen : projection.outcome.isValid = false) :
    e.evaluate parameters buffers = .ok (false, buffers) := by
  rw [evaluate, read, ok_bind]
  simp only [project_into, projected, map_ok_value, ok_bind, if_pos unseen]
  rfl

theorem evaluate_seen (seen : projection.outcome.isValid = true)
    (derivatives : ProjectionJacobians e.camera.distortion.kind.count α) (shown : projection.jacobians = some derivatives) :
    e.evaluate parameters buffers =
      answerWith ((projection.keypoint - e.measurement).divide e.pixelSigma).toList (e.jacobians s derivatives) buffers := by
  have accepted : ¬ projection.outcome.isValid = false := by simp [seen]
  rw [evaluate, answerWith, read, ok_bind]
  simp only [project_into, projected, map_ok_value, ok_bind, if_neg accepted, shown, fill_slots_all]
  cases buffers.jacobians <;> rfl

end Outcomes

-- The state is one that the term can be asked about: typed intrinsics and distortion parameters, and
-- where the pose of the camera is a constant, that constant.
structure Describes (e : ReprojectionError ℝ) (s : ReprojectionState ℝ) (k : Intrinsics ℝ)
    (ps : Vector ℝ e.camera.distortion.kind.count) : Prop where
  intrinsics : s.intrinsics = k.toList
  distortion : s.distortion = ps.toList
  mounted : ∀ pose, e.extrinsics = .fixed pose → s.cameraRotation = pose.rotation ∧ s.cameraPosition = pose.position

end ReprojectionError

-- The state has a residual if the landmark is in front of the camera.
structure ReprojectionState.Defined (s : ReprojectionState ℝ) : Prop where
  depth : 0 < s.inverseDepth
  norms : 0 < s.bodyRotation.norm ∧ 0 < s.cameraRotation.norm
  bearing : ReprojectionError.bearingTolerance < s.bearing.norm

namespace ReprojectionError

variable (e : ReprojectionError ℝ) (s : ReprojectionState ℝ) (k : Intrinsics ℝ) (ps : Vector ℝ e.camera.distortion.kind.count)

theorem described_holds (described : e.Describes s k ps) : e.Holds s := by
  refine ⟨?_, ?_, described.mounted⟩
  · rw [described.intrinsics]
    rfl
  · rw [described.distortion, Vector.length_toList]

theorem read_state (described : e.Describes s k ps) :
    e.readState? (e.blocks s) =
      if ¬ 0 < s.inverseDepth then .ok none
      else if ¬ (0 < s.bodyRotation.norm ∧ 0 < s.cameraRotation.norm) then .ok none
      else if ¬ bearingTolerance < s.bearing.norm then .ok none
      else .ok (some s) := by
  have finite : ¬ ((e.blocks s).all (·.all Scalar.isFinite) = false) := by simp
  rw [e.read_blocks s (e.described_holds s k ps described), if_neg finite]

theorem read_defined (described : e.Describes s k ps) (defined : s.Defined) :
    e.readState? (e.blocks s) = .ok (some s) := by
  rw [e.read_state s k ps described, if_neg (not_not.mpr defined.depth), if_neg (not_not.mpr defined.norms),
    if_neg (not_not.mpr defined.bearing)]

theorem read_undefined (described : e.Describes s k ps) (undefined : ¬ s.Defined) :
    e.readState? (e.blocks s) = .ok none := by
  rw [e.read_state s k ps described]
  by_cases depth : 0 < s.inverseDepth
  · by_cases norms : 0 < s.bodyRotation.norm ∧ 0 < s.cameraRotation.norm
    · by_cases bearing : bearingTolerance < s.bearing.norm
      · exact absurd ⟨depth, norms, bearing⟩ undefined
      · rw [if_neg (not_not.mpr depth), if_neg (not_not.mpr norms), if_pos bearing]
    · rw [if_neg (not_not.mpr depth), if_pos norms]
  · rw [if_pos depth]

-- The residual of a landmark at a point in the frame of the camera.
noncomputable def residualAt (p : Vec3 ℝ) : Vec2 ℝ :=
  (pixelOf k ⟨e.camera.distortion.kind, ps⟩ p - e.measurement).divide e.pixelSigma

noncomputable def derivativesAt (p : Vec3 ℝ) : ProjectionJacobians e.camera.distortion.kind.count ℝ :=
  Pinhole.jacobiansAt k ⟨e.camera.distortion.kind, ps⟩ p

theorem evaluate_undefined (described : e.Describes s k ps) (undefined : ¬ (s.Defined ∧ 0 < s.inCamera.z))
    (buffers : Buffers ℝ) : e.evaluate (e.blocks s) buffers = .ok (false, buffers) := by
  by_cases defined : s.Defined
  · have behind : ¬ 0 < s.inCamera.z := fun front => undefined ⟨defined, front⟩
    have projected := project_behind e.camera k ps s.inCamera behind
    rw [← described.intrinsics, ← described.distortion] at projected
    exact e.evaluate_unseen _ buffers s (e.read_defined s k ps described defined) _ projected rfl
  · exact e.evaluate_unread _ buffers (e.read_undefined s k ps described defined)

theorem evaluate_front (described : e.Describes s k ps) (defined : s.Defined) (front : 0 < s.inCamera.z)
    (buffers : Buffers ℝ) :
    e.evaluate (e.blocks s) buffers =
      answerWith (e.residualAt k ps s.inCamera).toList (e.jacobians s (e.derivativesAt k ps s.inCamera)) buffers := by
  obtain ⟨outcome, valid, projected⟩ := project_front e.camera k ps s.inCamera front
  rw [← described.intrinsics, ← described.distortion] at projected
  exact e.evaluate_seen _ buffers s (e.read_defined s k ps described defined) _ projected valid _ rfl

theorem evaluate_plain (described : e.Describes s k ps) (defined : s.Defined) (front : 0 < s.inCamera.z) :
    e.evaluate (e.blocks s) (Buffers.plain 2) = .ok (true, ⟨List.ofFn (e.residualAt k ps s.inCamera).get, none⟩) := by
  rw [e.evaluate_front s k ps described defined front]
  rfl

theorem evaluate_fits (described : e.Describes s k ps) (defined : s.Defined) (front : 0 < s.inCamera.z)
    (buffers : Buffers ℝ) (fits : e.term.Fits buffers) : ∃ out, e.evaluate (e.blocks s) buffers = .ok (true, out) := by
  have room : (e.residualAt k ps s.inCamera).toList.length ≤ buffers.residuals.length := fits.residuals
  rw [e.evaluate_front s k ps described defined front, answerWith, write_front_ok _ _ room, ok_bind]
  cases asked : buffers.jacobians with
  | none => exact ⟨_, rfl⟩
  | some slots =>
      obtain ⟨filled, done⟩ := listed_fit e.term _ (e.jacobian_sizes s (e.derivativesAt k ps s.inCamera)) buffers fits slots asked
      exact ⟨_, (bind_ok _ _ _).mpr ⟨filled, done, rfl⟩⟩

theorem evaluate_filled (described : e.Describes s k ps) (buffers out : Buffers ℝ) (slots : List (Option (List ℝ)))
    (asked : buffers.jacobians = some slots) (done : e.evaluate (e.blocks s) buffers = .ok (true, out)) :
    s.Defined ∧ 0 < s.inCamera.z ∧ ∃ filled, out.jacobians = some filled ∧
      fillAll slots (e.jacobians s (e.derivativesAt k ps s.inCamera)) = .ok filled := by
  by_cases possible : s.Defined ∧ 0 < s.inCamera.z
  · obtain ⟨defined, front⟩ := possible
    refine ⟨defined, front, ?_⟩
    rw [e.evaluate_front s k ps described defined front, answerWith] at done
    obtain ⟨residuals, _, rest⟩ := (bind_ok _ _ _).mp done
    simp only [asked] at rest
    obtain ⟨filled, written, last⟩ := (bind_ok _ _ _).mp rest
    cases last
    exact ⟨filled, rfl, written⟩
  · rw [e.evaluate_undefined s k ps described possible] at done
    cases done

end ReprojectionError

section Sizes

theorem three_cells {α : Type} (block : List α) (size : block.length = 3) : ∃ v : Vec3 α, block = v.toList := by
  obtain ⟨x, y, z, rfl⟩ := List.length_eq_three.mp size
  exact ⟨⟨x, y, z⟩, rfl⟩

theorem four_cells {α : Type} (block : List α) (size : block.length = 4) :
    (∃ q : Quaternion α, block = q.toList) ∧ ∃ k : Intrinsics α, block = k.toList := by
  obtain ⟨x, rest, rfl, remaining⟩ := List.length_eq_succ_iff.mp size
  obtain ⟨y, z, w, rfl⟩ := List.length_eq_three.mp remaining
  exact ⟨⟨⟨x, y, z, w⟩, rfl⟩, ⟨⟨x, y, z, w⟩, rfl⟩⟩

theorem cells_vector {α : Type} (block : List α) (n : Nat) (size : block.length = n) : ∃ v : Vector α n, block = v.toList :=
  ⟨⟨block.toArray, size⟩, rfl⟩

theorem landmark_cells {α : Type} (parameters : List (List α)) (sizes : parameters.map List.length = [3, 4, 1, 4, 3]) :
    ∃ (anchor : Vec3 α) (bearing : Quaternion α) (depth : α) (rotation : Quaternion α) (position : Vec3 α),
      parameters = [anchor.toList, bearing.toList, [depth], rotation.toList, position.toList] := by
  obtain ⟨first, others, rfl, firstSize, afterFirst⟩ := List.map_eq_cons_iff.mp sizes
  obtain ⟨second, others, rfl, secondSize, afterSecond⟩ := List.map_eq_cons_iff.mp afterFirst
  obtain ⟨third, others, rfl, thirdSize, afterThird⟩ := List.map_eq_cons_iff.mp afterSecond
  obtain ⟨fourth, others, rfl, fourthSize, afterFourth⟩ := List.map_eq_cons_iff.mp afterThird
  obtain ⟨fifth, others, rfl, fifthSize, afterFifth⟩ := List.map_eq_cons_iff.mp afterFourth
  obtain ⟨anchor, rfl⟩ := three_cells first firstSize
  obtain ⟨⟨bearing, rfl⟩, _⟩ := four_cells second secondSize
  obtain ⟨depth, rfl⟩ := List.length_eq_one_iff.mp thirdSize
  obtain ⟨⟨rotation, rfl⟩, _⟩ := four_cells fourth fourthSize
  obtain ⟨position, rfl⟩ := three_cells fifth fifthSize
  rw [List.map_eq_nil_iff.mp afterFifth]
  exact ⟨anchor, bearing, depth, rotation, position, rfl⟩

theorem pose_cells {α : Type} (parameters : List (List α)) (sizes : parameters.map List.length = [4, 3]) :
    ∃ (rotation : Quaternion α) (position : Vec3 α), parameters = [rotation.toList, position.toList] := by
  obtain ⟨first, others, rfl, firstSize, afterFirst⟩ := List.map_eq_cons_iff.mp sizes
  obtain ⟨second, others, rfl, secondSize, afterSecond⟩ := List.map_eq_cons_iff.mp afterFirst
  obtain ⟨⟨rotation, rfl⟩, _⟩ := four_cells first firstSize
  obtain ⟨position, rfl⟩ := three_cells second secondSize
  rw [List.map_eq_nil_iff.mp afterSecond]
  exact ⟨rotation, position, rfl⟩

theorem single_cells {α : Type} (parameters : List (List α)) (n : Nat) (sizes : parameters.map List.length = [n]) :
    ∃ block : List α, block.length = n ∧ parameters = [block] := by
  obtain ⟨first, rest, rfl, size, sizes⟩ := List.map_eq_cons_iff.mp sizes
  rw [List.map_eq_nil_iff.mp sizes]
  exact ⟨first, size, rfl⟩

end Sizes

namespace ReprojectionError

section Cells

variable {α : Type} [Scalar α]

-- The pose of the camera, from its blocks or from the constant.
theorem camera_cells (e : ReprojectionError α) (parameters : List (List α))
    (optimized : e.extrinsics = .optimized → parameters.map List.length = [4, 3])
    (fixed : ∀ pose, e.extrinsics = .fixed pose → parameters.map List.length = []) :
    ∃ (rotation : Quaternion α) (position : Vec3 α),
      (e.extrinsics = .optimized → parameters = [rotation.toList, position.toList]) ∧
      (∀ pose, e.extrinsics = .fixed pose → parameters = []) ∧
      ∀ pose, e.extrinsics = .fixed pose → rotation = pose.rotation ∧ position = pose.position := by
  cases mode : e.extrinsics with
  | optimized =>
      obtain ⟨rotation, position, same⟩ := pose_cells parameters (optimized mode)
      exact ⟨rotation, position, fun _ => same, fun _ other => (by cases other), fun _ other => (by cases other)⟩
  | fixed pose =>
      have none := List.map_eq_nil_iff.mp (fixed pose mode)
      refine ⟨pose.rotation, pose.position, fun other => (by cases other), fun _ _ => none, fun other same => ?_⟩
      cases same
      exact ⟨rfl, rfl⟩

theorem lens_cells (count : Nat) (parameters : List (List α))
    (sizes : parameters.map List.length = if 0 < count then [count] else []) :
    ∃ ps : Vector α count, parameters = if 0 < count then [ps.toList] else [] := by
  by_cases some : 0 < count
  · rw [if_pos some] at sizes
    obtain ⟨block, size, rfl⟩ := single_cells parameters count sizes
    obtain ⟨ps, rfl⟩ := cells_vector block count size
    exact ⟨ps, (if_pos some).symm⟩
  · rw [if_neg some] at sizes
    exact ⟨Vector.replicate count 0, (List.map_eq_nil_iff.mp sizes).trans (if_neg some).symm⟩

-- Blocks of the declared sizes hold a state.
theorem held_of_sizes (e : ReprojectionError α) (parameters : List (List α))
    (sizes : parameters.map List.length = e.blockSizes) :
    ∃ s, e.Holds s ∧ parameters = e.blocks s := by
  obtain ⟨upToIntrinsics, lens, rfl, sizes, lensSizes⟩ := List.map_eq_append_iff.mp sizes
  obtain ⟨poses, intrinsics, rfl, sizes, intrinsicsSizes⟩ := List.map_eq_append_iff.mp sizes
  obtain ⟨landmark, camera, rfl, landmarkSizes, cameraSizes⟩ := List.map_eq_append_iff.mp sizes
  obtain ⟨anchor, bearing, depth, rotation, position, rfl⟩ := landmark_cells landmark landmarkSizes
  obtain ⟨cameraRotation, cameraPosition, optimized, fixed, mounted⟩ := e.camera_cells camera
    (fun mode => by rw [mode] at cameraSizes; exact cameraSizes)
    (fun pose mode => by rw [mode] at cameraSizes; exact cameraSizes)
  obtain ⟨block, size, rfl⟩ := single_cells intrinsics 4 intrinsicsSizes
  obtain ⟨ps, rfl⟩ := lens_cells e.camera.distortion.kind.count lens lensSizes
  refine ⟨⟨anchor, bearing, depth, rotation, position, cameraRotation, cameraPosition, block, ps.toList⟩,
    ⟨size, Vector.length_toList, mounted⟩, ?_⟩
  rw [blocks]
  cases mode : e.extrinsics with
  | optimized => rw [optimized mode]
  | fixed pose => rw [fixed pose mode]

end Cells

theorem blocks_of_sizes (e : ReprojectionError ℝ) (parameters : List (List ℝ))
    (sizes : parameters.map List.length = e.blockSizes) :
    ∃ s k ps, e.Describes s k ps ∧ parameters = e.blocks s := by
  obtain ⟨s, holds, rfl⟩ := e.held_of_sizes parameters sizes
  obtain ⟨_, k, intrinsics⟩ := four_cells s.intrinsics holds.intrinsics
  obtain ⟨ps, distortion⟩ := cells_vector s.distortion _ holds.distortion
  exact ⟨s, k, ps, ⟨intrinsics, distortion, holds.mounted⟩, rfl⟩

end ReprojectionError

end LandmarkMap
