import LandmarkMap.Proofs.Map.Provenance
import LandmarkMap.Proofs.Solver.AnchoredPoints
import LandmarkMap.Proofs.Solver.LandmarkBlocks

set_option autoImplicit false

namespace LandmarkMap

-- The residual of a block is what an observation of a point of the world leaves over, and there is
-- none where the point has no image.
def ResidualBlock.Measures (b : ResidualBlock ℝ) (g : PoseGraph ℝ) (sigma : ℝ) (o : Observation) (p : Vec3 ℝ) : Prop :=
  ∃ found camera projection, g.Resolves o found ∧ g.cameraToGlobal o.vertex o.frame = .ok camera ∧
    found.mount.camera.project (camera.applyInverse p) = .ok projection ∧
    b.residual? = .ok (if projection.outcome.isValid then some ((projection.keypoint - found.keypoint).divide sigma) else none)

-- Where a point lies in the world if its coordinates are taken to be those of the mission of an
-- observer.
def PoseGraph.Places (g : PoseGraph ℝ) (o : Observation) (p seen : Vec3 ℝ) : Prop :=
  ∃ vertex base, g.vertex o.vertex = .ok vertex ∧ g.missionToGlobal vertex.mission = .ok base ∧ base.apply p = seen

theorem block_measures (g : PoseGraph ℝ) (holds : g.Holds Pose.IsRigid fun _ => True) (o : Observation) (found : Lookups ℝ)
    (resolves : g.Resolves o found) (c : VisualConfig ℝ) (positive : 0 < c.pixelSigma) (anchor p : Vec3 ℝ)
    (seen : InverseDepth ℝ) (reaches : seen.Reaches anchor p) :
    (found.block c positive anchor seen).Measures g c.pixelSigma o (found.mission.toGlobal.apply p) := by
  obtain ⟨base, body, mounted, _⟩ := resolved_held _ _ g holds o found resolves
  let shot : Shot :=
    { camera := found.mount.camera, measurement := found.keypoint, pixelSigma := c.pixelSigma, positive,
      body := found.vertex.state.pose, rigid := body, mount := found.mount.fromBody, mounted,
      intrinsics := found.mount.camera.intrinsics, lens := found.mount.camera.distortion.parameters }
  -- The error reaches the camera through the body, and the graph composes the two.
  have inside : (found.mission.toGlobal * found.vertex.state.pose * found.mount.fromBody.inverse).applyInverse
      (found.mission.toGlobal.apply p) = shot.inCamera p := by
    rw [product_back _ _ _ (rigid_product _ _ base body) (rigid_inverse _ mounted), product_back _ _ _ base body,
      apply_back _ _ base, inverse_back _ _ mounted, shot.in_camera]
  have mode : (if c.fixExtrinsics then .fixed found.mount.fromBody else .optimized) ∈ shot.modes := by
    by_cases held : c.fixExtrinsics = true
    · rw [if_pos held]
      exact List.mem_cons_of_mem _ (List.mem_singleton.mpr rfl)
    · rw [if_neg held]
      exact List.mem_cons_self
  obtain ⟨projection, projected⟩ := shot.image_defined p
  have image := congrArg found.mount.camera.project inside
  have left := shot.residual anchor p seen reaches projection projected _ mode
  exact ⟨found, _, projection, resolves, resolved_camera g o found resolves, image.trans projected, left⟩

-- Seen from where it is anchored, a landmark does not lie in the direction that no shortest rotation
-- reaches.
def Map.OffCap (map : Map ℝ) (l : Landmark ℝ) (p : Vec3 ℝ) : Prop :=
  ∀ first camera, l.observations.head? = some first → map.cameraToMission first = .ok camera →
    1e-10 ≤ 1 + ((p - camera.position).divide (p - camera.position).norm).z

theorem own_mission_places (g : PoseGraph ℝ) (l : Landmark ℝ) (p : Vec3 ℝ) (placed : l.position = some p) (global : Vec3 ℝ)
    (located : g.landmarkInGlobal l = .ok global) (o : Observation) (vertex : Vertex ℝ)
    (observer : g.vertex o.vertex = .ok vertex) (own : vertex.mission = l.mission) : g.Places o p global := by
  rw [PoseGraph.landmarkInGlobal, placed] at located
  obtain ⟨base, home, at_base⟩ := (bind_ok _ _ _).mp located
  exact ⟨vertex, base, observer, own ▸ home, (pure_ok _ _).mp at_base⟩

theorem places_unique (g : PoseGraph ℝ) (o : Observation) (p a b : Vec3 ℝ) (first : g.Places o p a)
    (second : g.Places o p b) : a = b := by
  obtain ⟨vertex, base, observer, home, rfl⟩ := first
  obtain ⟨vertex', base', observer', home', rfl⟩ := second
  cases Except.ok.inj (observer.symm.trans observer')
  cases Except.ok.inj (home.symm.trans home')
  rfl

-- A block measures the landmark at its coordinates in the observer's mission.
theorem blocks_measure (map : Map ℝ) (holds : map.toPoseGraph.Holds Pose.IsRigid fun _ => True) (l : Landmark ℝ)
    (stored : map.landmark l.id = .ok l) (p : Vec3 ℝ) (placed : l.position = some p) (clear : map.OffCap l p)
    (c : VisualConfig ℝ) (blocks : List (ResidualBlock ℝ)) (built : map.residualBlocks c l.id = .ok blocks) :
    List.Forall₂ (fun o b => ∃ seen, map.Places o p seen ∧ b.Measures map.toPoseGraph c.pixelSigma o seen)
      l.observations blocks := by
  obtain ⟨q, at_q, built⟩ := (residual_blocks_ok map c l stored blocks).mp built
  cases placed.symm.trans at_q
  rcases built with ⟨unseen, rfl⟩ | ⟨first, camera, seen, observed, located, pointed, each⟩
  · rw [unseen]
    exact List.Forall₂.nil
  · have reaches := anchored_returns p camera.position seen pointed (clear first camera observed located)
    refine each.imp fun o b made => ?_
    obtain ⟨found, resolves, positive, rfl⟩ := (residual_block_ok map c o camera.position seen b).mp made
    have base : map.missionToGlobal found.vertex.mission = .ok found.mission.toGlobal := by
      rw [PoseGraph.missionToGlobal, resolves.mission]
      rfl
    exact ⟨_, ⟨_, _, resolves.vertex, base, rfl⟩,
      block_measures map.toPoseGraph holds o found resolves c positive camera.position p seen reaches⟩

-- Wherever the observer's mission has the landmark where it is, as its own mission does, the block is
-- the one that the world calls for.
theorem residual_blocks_geometry [Spectral ℝ] (operations : List (Operation ℝ)) (map : Map ℝ)
    (brings : ∀ operation ∈ operations, operation.Brings Pose.IsRigid fun _ => True)
    (done : Operation.run operations Map.empty = .ok map) (l : Landmark ℝ) (member : l ∈ map.landmarks) (p : Vec3 ℝ)
    (placed : l.position = some p) (clear : map.OffCap l p) (c : VisualConfig ℝ) (blocks : List (ResidualBlock ℝ))
    (built : map.residualBlocks c l.id = .ok blocks) :
    ∃ global, map.landmarkInGlobal l = .ok global ∧
      List.Forall₂ (fun o b =>
        (∃ seen, map.Places o p seen ∧ b.Measures map.toPoseGraph c.pixelSigma o seen) ∧
          (map.Places o p global → b.Measures map.toPoseGraph c.pixelSigma o global)) l.observations blocks ∧
      ∀ o ∈ l.observations, ∀ vertex, map.vertex o.vertex = .ok vertex → vertex.mission = l.mission →
        map.Places o p global := by
  have consistent := run_consistent operations map done
  have holds := run_holds _ _ operations map brings done
  obtain ⟨base, home⟩ := landmark_home map consistent l member
  have located : map.landmarkInGlobal l = .ok (base.apply p) := by
    rw [PoseGraph.landmarkInGlobal, placed, home]
    rfl
  have each := blocks_measure map holds l (found_landmark map l consistent member) p placed clear c blocks built
  refine ⟨base.apply p, located, each.imp ?_, fun o _ => own_mission_places map.toPoseGraph l p placed _ located o⟩
  rintro o b ⟨seen, there, measured⟩
  exact ⟨⟨seen, there, measured⟩, fun here => places_unique _ _ _ _ _ there here ▸ measured⟩

theorem resolves_unique (g : PoseGraph ℝ) (o : Observation) (a b : Lookups ℝ) (first : g.Resolves o a)
    (second : g.Resolves o b) : a = b := by
  obtain ⟨vertex, mission, frame, keypoint, mount⟩ := a
  cases Except.ok.inj (first.vertex.symm.trans second.vertex)
  cases Except.ok.inj (first.mission.symm.trans second.mission)
  cases Except.ok.inj (first.frame.symm.trans second.frame)
  cases Except.ok.inj (first.keypoint.symm.trans second.keypoint)
  cases Except.ok.inj (first.mount.symm.trans second.mount)
  rfl

theorem measured_residual (g : PoseGraph ℝ) (o : Observation) (found : Lookups ℝ) (resolves : g.Resolves o found)
    (camera : Pose ℝ) (located : g.cameraToGlobal o.vertex o.frame = .ok camera) (p q : Vec3 ℝ)
    (inside : camera.applyInverse p = q) (front : 0 < q.z) (b : ResidualBlock ℝ) (sigma : ℝ)
    (measures : b.Measures g sigma o p) :
    b.residual? = .ok (some ((pixelOf found.mount.camera.intrinsics
      ⟨found.mount.camera.distortion.kind, found.mount.camera.distortion.parameters⟩ q - found.keypoint).divide sigma)) := by
  obtain ⟨found', camera', projection, resolves', located', projected, left⟩ := measures
  cases resolves_unique g o found found' resolves resolves'
  cases Except.ok.inj (located.symm.trans located')
  obtain ⟨outcome, valid, image⟩ := project_front found.mount.camera found.mount.camera.intrinsics
    found.mount.camera.distortion.parameters q front
  rw [inside] at projected
  cases Except.ok.inj (projected.symm.trans image)
  rw [left, if_pos valid]

-- Two missions whose bases are a step apart. A landmark of the first is seen from the root of each.

noncomputable def shiftedMissions : List (Operation ℝ) :=
  [.addMission (Id.ofNat 1) Pose.identity offsetRig, .addMission (Id.ofNat 7) (Pose.atPosition ⟨1, 0, 0⟩) offsetRig,
    .addVertex (watchingVertex firstObserver (Id.ofNat 1) ⟨0, 0, 0⟩)
      (.create firstObserver (Id.ofNat 1) ⟨0⟩ _ 1 _ rfl),
    .addVertex (watchingVertex secondObserver (Id.ofNat 7) ⟨0, 0, 0⟩)
      (.create secondObserver (Id.ofNat 7) ⟨0⟩ _ 1 _ rfl),
    .addLandmark ⟨Id.ofNat 5, Id.ofNat 1, none, .unknown, []⟩ fresh_landmark_built,
    .addObservation (Id.ofNat 5) firstObserver 0 ⟨320, 240⟩,
    .addObservation (Id.ofNat 5) secondObserver 0 ⟨220, 240⟩,
    .pass (.setPosition (Id.ofNat 5) ⟨0, 0, 3⟩)]

noncomputable def shiftedMap : Map ℝ :=
  (@Operation.run ℝ _ eigenSpectral shiftedMissions Map.empty).toOption.getD Map.empty

noncomputable def shiftedLandmark : Landmark ℝ :=
  ⟨Id.ofNat 5, Id.ofNat 1, some ⟨0, 0, 3⟩, .unknown, [⟨firstObserver, 0, 0⟩, ⟨secondObserver, 0, 0⟩]⟩

def pixelConfig : VisualConfig ℝ := ⟨1, false⟩

-- What is looked up for the observation from a mission, given its base and the keypoint.
noncomputable def shiftedLookups (vertex : VertexId) (mission : MissionId) (base : Pose ℝ) (keypoint : Vec2 ℝ) : Lookups ℝ where
  vertex := (watchingVertex vertex mission ⟨0, 0, 0⟩).addKeypoint 0 keypoint (Id.ofNat 5)
  mission := (⟨mission, base, offsetRig, Id.invalid, []⟩ : Mission ℝ).addVertex vertex
  frame := ⟨[keypoint], [Id.ofNat 5]⟩
  keypoint := keypoint
  mount := ⟨idealCamera, Pose.atPosition ⟨0, 0, 1⟩⟩

theorem shifted_resolves :
    shiftedMap.Resolves ⟨firstObserver, 0, 0⟩ (shiftedLookups firstObserver (Id.ofNat 1) Pose.identity ⟨320, 240⟩) ∧
      shiftedMap.Resolves ⟨secondObserver, 0, 0⟩
        (shiftedLookups secondObserver (Id.ofNat 7) (Pose.atPosition ⟨1, 0, 0⟩) ⟨220, 240⟩) :=
  ⟨⟨rfl, rfl, rfl, rfl, rfl⟩, ⟨rfl, rfl, rfl, rfl, rfl⟩⟩

theorem shifted_brings : ∀ operation ∈ shiftedMissions, operation.Brings Pose.IsRigid fun _ => True := by
  have rig := offset_rig_meets (fun _ => True) trivial
  simp only [shiftedMissions, List.forall_mem_cons]
  exact ⟨⟨unit_identity, rig⟩, ⟨at_position_rigid _, rig⟩, at_position_rigid _, at_position_rigid _, trivial, trivial, trivial,
    trivial, List.forall_mem_nil _⟩

theorem shifted_anchor : shiftedMap.cameraToMission ⟨firstObserver, 0, 0⟩ = .ok (Pose.atPosition ⟨0, 0, -1⟩) := by
  rw [resolved_anchor shiftedMap _ _ shifted_resolves.1]
  change Except.ok (Pose.atPosition ⟨0, 0, 0⟩ * (Pose.atPosition ⟨0, 0, 1⟩).inverse) = _
  rw [at_position_inverse, at_position_product, neg_coordinates, add_coordinates]
  norm_num

theorem shifted_view : shiftedMap.cameraToGlobal secondObserver 0 = .ok (Pose.atPosition ⟨1, 0, -1⟩) := by
  have located := resolved_camera shiftedMap.toPoseGraph _ _ shifted_resolves.2
  rw [located]
  change Except.ok (Pose.atPosition ⟨1, 0, 0⟩ * Pose.atPosition ⟨0, 0, 0⟩ * (Pose.atPosition ⟨0, 0, 1⟩).inverse) = _
  rw [at_position_inverse, at_position_product, at_position_product, neg_coordinates, add_coordinates, add_coordinates]
  norm_num

theorem shifted_depth : (⟨0, 0, 3⟩ : Vec3 ℝ) - ⟨0, 0, -1⟩ = ⟨0, 0, 4⟩ := by
  rw [sub_coordinates]
  norm_num

theorem shifted_off_cap : shiftedMap.OffCap shiftedLandmark ⟨0, 0, 3⟩ := by
  intro first camera observed located
  cases observed
  cases Except.ok.inj (shifted_anchor.symm.trans located)
  have ahead : 0 ≤ (4 : ℝ) / (⟨0, 0, 4⟩ : Vec3 ℝ).norm := div_nonneg (by norm_num) (Real.sqrt_nonneg _)
  change (1e-10 : ℝ) ≤ 1 + ((⟨0, 0, 3⟩ - ⟨0, 0, -1⟩ : Vec3 ℝ).divide (⟨0, 0, 3⟩ - ⟨0, 0, -1⟩ : Vec3 ℝ).norm).z
  rw [shifted_depth]
  calc (1e-10 : ℝ) ≤ 1 := by norm_num
    _ ≤ 1 + 4 / (⟨0, 0, 4⟩ : Vec3 ℝ).norm := le_add_of_nonneg_right ahead

theorem shifted_built :
    ∃ first second, shiftedMap.residualBlocks pixelConfig shiftedLandmark.id = .ok [first, second] := by
  have apart : (⟨0, 0, 3⟩ : Vec3 ℝ).ApartFrom ⟨0, 0, -1⟩ := by
    rw [Vec3.ApartFrom, shifted_depth]
    refine ⟨Real.sqrt_pos.mpr ?_, rfl⟩
    norm_num [Vec3.normSq, Vec3.dot]
  obtain ⟨_, _, pointed⟩ := anchored _ _ apart
  have resolves : ∀ o ∈ shiftedLandmark.observations, ∃ found, shiftedMap.toPoseGraph.Resolves o found :=
    List.forall_mem_cons.mpr ⟨⟨_, shifted_resolves.1⟩, List.forall_mem_singleton.mpr ⟨_, shifted_resolves.2⟩⟩
  obtain ⟨blocks, built, each⟩ := resolved_blocks shiftedMap pixelConfig shiftedLandmark rfl ⟨0, 0, 3⟩ rfl _ rfl _
    shifted_anchor _ pointed one_pos resolves
  obtain ⟨first, second, rfl⟩ := List.length_eq_two.mp each.length_eq.symm
  exact ⟨first, second, built⟩

theorem shifted_global : shiftedMap.landmarkInGlobal shiftedLandmark = .ok ⟨0, 0, 3⟩ := by
  change Except.ok (Pose.identity.apply ⟨0, 0, 3⟩) = _
  rw [Pose.apply, Pose.identity, identity_rotate, add_coordinates]
  norm_num [Vec3.zero]

theorem shifted_blocks_geometry :
    ∃ (_ : Spectral ℝ) (first second : ResidualBlock ℝ),
      (∀ operation ∈ shiftedMissions, operation.Brings Pose.IsRigid fun _ => True) ∧
      Operation.run shiftedMissions Map.empty = .ok shiftedMap ∧ shiftedLandmark ∈ shiftedMap.landmarks ∧
      shiftedMap.OffCap shiftedLandmark ⟨0, 0, 3⟩ ∧
      shiftedMap.residualBlocks pixelConfig shiftedLandmark.id = .ok [first, second] ∧
      first.Measures shiftedMap.toPoseGraph 1 ⟨firstObserver, 0, 0⟩ ⟨0, 0, 3⟩ ∧
      second.Measures shiftedMap.toPoseGraph 1 ⟨secondObserver, 0, 0⟩ ⟨1, 0, 3⟩ := by
  let _ : Spectral ℝ := eigenSpectral
  have member : shiftedLandmark ∈ shiftedMap.landmarks := List.mem_singleton.mpr rfl
  obtain ⟨first, second, built⟩ := shifted_built
  refine ⟨eigenSpectral, first, second, shifted_brings, rfl, member, shifted_off_cap, built, ?_⟩
  obtain ⟨global, located, each, home⟩ := residual_blocks_geometry shiftedMissions shiftedMap shifted_brings rfl
    shiftedLandmark member ⟨0, 0, 3⟩ rfl shifted_off_cap pixelConfig _ built
  cases Except.ok.inj (shifted_global.symm.trans located)
  obtain ⟨⟨_, own⟩, each⟩ := List.forall₂_cons.mp each
  obtain ⟨⟨⟨seen, ⟨vertex, base, observer, based, rfl⟩, foreign⟩, _⟩, _⟩ := List.forall₂_cons.mp each
  refine ⟨own (home ⟨firstObserver, 0, 0⟩ List.mem_cons_self _ rfl rfl), ?_⟩
  cases Except.ok.inj (shifted_resolves.2.vertex.symm.trans observer)
  obtain rfl : Pose.atPosition ⟨1, 0, 0⟩ = base := Except.ok.inj based
  rw [at_position_apply, add_coordinates] at foreign
  norm_num at foreign
  exact foreign

theorem shifted_residual (b : ResidualBlock ℝ) (p : Vec3 ℝ) (front : 0 < (p - ⟨1, 0, -1⟩).z)
    (measures : b.Measures shiftedMap.toPoseGraph 1 ⟨secondObserver, 0, 0⟩ p) :
    b.residual? = .ok (some ⟨400 * ((p.x - 1) * (1 / (p.z + 1))) + 100, 400 * (p.y * (1 / (p.z + 1)))⟩) := by
  rw [measured_residual _ _ _ shifted_resolves.2 _ shifted_view _ _ (at_position_back _ _) front _ _ measures]
  change Except.ok (some ((pixelOf idealCamera.intrinsics
    ⟨idealCamera.distortion.kind, idealCamera.distortion.parameters⟩ (p - ⟨1, 0, -1⟩) - ⟨220, 240⟩).divide 1)) = _
  rw [ideal_pixel, Vec2.divide, div_one, div_one, sub_coordinates, sub_zero, sub_neg_eq_add]
  congr 3
  · change _ + 320 - 220 = _
    ring
  · exact add_sub_cancel_right _ _

-- The foreign block is off by a hundred pixels, although its keypoint is the image of the landmark.
theorem foreign_block_misses :
    ∃ (_ : Spectral ℝ) (first second : ResidualBlock ℝ),
      (∀ operation ∈ shiftedMissions, operation.Brings Pose.IsRigid fun _ => True) ∧
      Operation.run shiftedMissions Map.empty = .ok shiftedMap ∧ shiftedLandmark ∈ shiftedMap.landmarks ∧
      shiftedLandmark.position = some ⟨0, 0, 3⟩ ∧ shiftedMap.OffCap shiftedLandmark ⟨0, 0, 3⟩ ∧
      shiftedMap.residualBlocks pixelConfig shiftedLandmark.id = .ok [first, second] ∧
      shiftedMap.landmarkInGlobal shiftedLandmark = .ok ⟨0, 0, 3⟩ ∧ second.residual? = .ok (some ⟨100, 0⟩) ∧
      ¬ second.Measures shiftedMap.toPoseGraph 1 ⟨secondObserver, 0, 0⟩ ⟨0, 0, 3⟩ := by
  let _ : Spectral ℝ := eigenSpectral
  have member : shiftedLandmark ∈ shiftedMap.landmarks := List.mem_singleton.mpr rfl
  obtain ⟨first, second, built⟩ := shifted_built
  have holds := run_holds _ _ shiftedMissions shiftedMap shifted_brings rfl
  have each := blocks_measure shiftedMap holds shiftedLandmark rfl ⟨0, 0, 3⟩ rfl shifted_off_cap pixelConfig _ built
  obtain ⟨_, each⟩ := List.forall₂_cons.mp each
  obtain ⟨⟨seen, there, measured⟩, _⟩ := List.forall₂_cons.mp each
  have base : shiftedMap.Places ⟨secondObserver, 0, 0⟩ ⟨0, 0, 3⟩ ⟨1, 0, 3⟩ := by
    refine ⟨_, Pose.atPosition ⟨1, 0, 0⟩, shifted_resolves.2.vertex, rfl, ?_⟩
    rw [at_position_apply, add_coordinates]
    norm_num
  cases places_unique _ _ _ _ _ there base
  have left : second.residual? = .ok (some ⟨100, 0⟩) := by
    rw [shifted_residual second _ (by norm_num [sub_coordinates]) measured]
    norm_num
  refine ⟨eigenSpectral, first, second, shifted_brings, rfl, member, rfl, shifted_off_cap, built, shifted_global, left, ?_⟩
  intro claimed
  have agreed := left.symm.trans (shifted_residual second _ (by norm_num [sub_coordinates]) claimed)
  norm_num at agreed

end LandmarkMap
