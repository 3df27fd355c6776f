import LandmarkMap.Proofs.Solver.LandmarkBlocks
import LandmarkMap.Proofs.Solver.Requests

set_option autoImplicit false

namespace LandmarkMap

variable {α : Type} [Scalar α]

-- A block whose parameters lie where its error looks for them. What was found for the observation is the source
-- of both.
structure ResidualBlock.LaidOut (b : ResidualBlock α) (c : VisualConfig α) (found : Lookups α) : Prop where
  measurement : b.error.measurement = found.keypoint
  sigma : b.error.pixelSigma = c.pixelSigma
  camera : b.error.camera = found.mount.camera
  mode : b.error.extrinsics = if c.fixExtrinsics then .fixed found.mount.fromBody else .optimized
  sizes : b.parameters.map List.length = b.error.blockSizes
  intrinsics : b.parameters[b.error.intrinsicsBlock]? = some found.mount.camera.intrinsics.toList
  distorted : b.error.distortionBlock.isSome = true ↔ found.mount.camera.distortionParameters ≠ []
  distortion : ∀ i, b.error.distortionBlock = some i →
    b.parameters[i]? = some found.mount.camera.distortionParameters ∧ i + 1 = b.parameters.length
  evaluates : ∀ buffers, b.error.term.Fits buffers → ∃ outcome, b.error.evaluate b.parameters buffers = .ok outcome

-- The intrinsics come last unless there are distortion parameters.
theorem blocks_count (e : ReprojectionError α) (s : ReprojectionState α) :
    (e.blocks s).length = e.intrinsicsBlock + if 0 < e.camera.distortion.kind.count then 2 else 1 := by
  rw [ReprojectionError.blocks, ReprojectionError.intrinsicsBlock]
  by_cases some : 0 < e.camera.distortion.kind.count
  · cases e.extrinsics <;> simp [some]
  · cases e.extrinsics <;> simp [some]

theorem parameters_listed (camera : Pinhole α) : camera.distortionParameters ≠ [] ↔ 0 < camera.distortion.kind.count := by
  have count : camera.distortionParameters.length = camera.distortion.kind.count := Vector.length_toList
  rw [← count, List.length_pos_iff]

theorem block_laid_out (found : Lookups α) (c : VisualConfig α) (positive : 0 < c.pixelSigma) (anchor : Vec3 α)
    (seen : InverseDepth α) : (found.block c positive anchor seen).LaidOut c found := by
  let e := found.error c positive
  let s := found.state anchor seen
  have count : s.distortion.length = e.camera.distortion.kind.count := Vector.length_toList
  have sizes : (e.blocks s).map List.length = e.blockSizes := e.block_lengths s rfl count
  have lens : e.distortionBlock = if 0 < e.camera.distortion.kind.count then some (e.intrinsicsBlock + 1) else none :=
    e.distortion_block
  refine ⟨rfl, rfl, rfl, rfl, sizes, e.intrinsics_held s, ?_, ?_, e.sized_evaluates _ sizes⟩
  · change e.distortionBlock.isSome = true ↔ _
    rw [lens, parameters_listed]
    change _ ↔ 0 < e.camera.distortion.kind.count
    by_cases some : 0 < e.camera.distortion.kind.count
    · simp [some]
    · simp [some]
  · intro i last
    change (e.blocks s)[i]? = _ ∧ i + 1 = (e.blocks s).length
    change e.distortionBlock = some i at last
    rw [lens] at last
    by_cases some : 0 < e.camera.distortion.kind.count
    · rw [if_pos some] at last
      cases last
      rw [blocks_count, if_pos some]
      exact ⟨e.distortion_held s some, rfl⟩
    · rw [if_neg some] at last
      cases last

-- Neither reachability without raw observations nor a place for the landmark has to be asked for: had a lookup
-- failed or the place been missing, there would be no blocks.
theorem residual_blocks_laid_out [Spectral α] (operations : List (Operation α)) (map : Map α)
    (done : Operation.run operations Map.empty = .ok map) (c : VisualConfig α) (l : Landmark α)
    (member : l ∈ map.landmarks) (blocks : List (ResidualBlock α)) (built : map.residualBlocks c l.id = .ok blocks) :
    List.Forall₂ (fun o b => ∃ found, map.toPoseGraph.Resolves o found ∧ b.LaidOut c found) l.observations blocks := by
  have consistent := run_consistent operations map done
  have stored := found_landmark map l consistent member
  obtain ⟨_, _, ⟨none, rfl⟩ | ⟨first, camera, seen, _, _, _, each⟩⟩ := (residual_blocks_ok map c l stored blocks).mp built
  · rw [none]
    exact .nil
  · refine each.imp fun o b made => ?_
    obtain ⟨found, resolves, positive, rfl⟩ := (residual_block_ok map c o camera.position seen b).mp made
    exact ⟨found, resolves, block_laid_out found c positive camera.position seen⟩

-- A vertex with two cameras, one of which distorts. Both see the same landmark.

def bentCamera : Pinhole Float :=
  ⟨{ (default : PinholeParameters Float) with distortion := .fieldOfView 0.9 }, by decide +kernel, by decide +kernel⟩

def mixedRig : Rig Float := ⟨[⟨plainCamera, Pose.identity⟩, ⟨bentCamera, Pose.atPosition ⟨1, 0, 0⟩⟩]⟩

def mixedVertex : Vertex Float :=
  ⟨Id.ofNat 2, Id.ofNat 1, ⟨0⟩, BodyState.atPose Pose.identity, [Frame.empty, Frame.empty]⟩

def mixedViews : List (Operation Float) :=
  [.addMission (Id.ofNat 1) Pose.identity mixedRig,
    .addVertex mixedVertex (.create (Id.ofNat 2) (Id.ofNat 1) ⟨0⟩ _ 2 _ rfl),
    .addLandmark ⟨Id.ofNat 5, Id.ofNat 1, none, .unknown, []⟩ fresh_landmark_built,
    .addObservation (Id.ofNat 5) (Id.ofNat 2) 1 ⟨480, 248⟩,
    .addObservation (Id.ofNat 5) (Id.ofNat 2) 0 ⟨367, 248⟩,
    .pass (.setPosition (Id.ofNat 5) ⟨0, 0, 4⟩)]

def freeExtrinsics : VisualConfig Float := { (default : VisualConfig Float) with fixExtrinsics := false }

def mixedMap : Map Float := (Operation.run mixedViews Map.empty).toOption.getD Map.empty

theorem mixed_blocks_laid_out :
    ∃ l blocks, Operation.run mixedViews Map.empty = .ok mixedMap ∧ l ∈ mixedMap.landmarks ∧
      mixedMap.residualBlocks freeExtrinsics l.id = .ok blocks ∧
      blocks.map (·.error.blockSizes) = [[3, 4, 1, 4, 3, 4, 3, 4, 1], [3, 4, 1, 4, 3, 4, 3, 4]] ∧
      blocks.map (·.error.distortionBlock) = [some 8, none] ∧
      ∀ b ∈ blocks, ∀ wanted, ∃ outcome,
        b.error.evaluate b.parameters (Buffers.masked 2 b.error.blockSizes wanted) = .ok outcome := by
  have done : Operation.run mixedViews Map.empty = .ok mixedMap := value_or _ _ (by decide +kernel)
  have named : Id.ofNat 5 ∈ mixedMap.landmarks.map (·.id) := by decide +kernel
  have sizes : (mixedMap.residualBlocks freeExtrinsics (Id.ofNat 5)).toOption.map (fun blocks =>
      (blocks.map (·.error.blockSizes), blocks.map (·.error.distortionBlock))) =
        some ([[3, 4, 1, 4, 3, 4, 3, 4, 1], [3, 4, 1, 4, 3, 4, 3, 4]], [some 8, none]) := by
    decide +kernel
  obtain ⟨l, member, same⟩ := List.mem_map.mp named
  obtain ⟨blocks, built, shown⟩ := observed_ok _ _ _ sizes
  obtain ⟨declared, lenses⟩ := Prod.mk.inj shown
  rw [← same] at built
  have each := residual_blocks_laid_out mixedViews mixedMap done freeExtrinsics l member blocks built
  refine ⟨l, blocks, done, member, built, declared, lenses, fun b listed wanted => ?_⟩
  obtain ⟨_, _, _, _, laid⟩ := related_member _ _ _ each b listed
  exact laid.evaluates _ (masked_fits b.error.term wanted)

end LandmarkMap
