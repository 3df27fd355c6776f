import LandmarkMap.Proofs.Solver.Reprojection
import LandmarkMap.Proofs.Map.PassFaults
import LandmarkMap.Solver.LandmarkBlocks

set_option autoImplicit false

namespace LandmarkMap

variable {α : Type}

theorem lifted_fault_ok {τ : Type} (run : Except (Fault α) τ) (value : τ) :
    (liftM run : Except (Failure α) τ) = .ok value ↔ run = .ok value :=
  map_error_ok Failure.fault run value

theorem lifted_error_ok {τ : Type} (run : Except (Error α) τ) (value : τ) :
    (liftM run : Except (Failure α) τ) = .ok value ↔ run = .ok value :=
  map_error_ok Failure.error run value

variable [Scalar α]

theorem create_ok (measurement : Vec2 α) (sigma : α) (camera : Pinhole α) (extrinsics : Extrinsics α)
    (e : ReprojectionError α) :
    ReprojectionError.create measurement sigma camera extrinsics = .ok e ↔
      ∃ positive : 0 < sigma, ⟨measurement, sigma, positive, camera, extrinsics⟩ = e := by
  by_cases positive : 0 < sigma
  · rw [ReprojectionError.create, dif_pos positive]
    constructor
    · intro same
      exact ⟨positive, Except.ok.inj same⟩
    · rintro ⟨_, rfl⟩
      rfl
  · rw [ReprojectionError.create, dif_neg positive]
    constructor
    · intro same
      cases same
    · rintro ⟨holds, _⟩
      exact absurd holds positive

-- The error of an observation and the state that it starts from, by what is found for the
-- observation.

namespace Lookups

variable (found : Lookups α)

def error (c : VisualConfig α) (positive : 0 < c.pixelSigma) : ReprojectionError α :=
  ⟨found.keypoint, c.pixelSigma, positive, found.mount.camera,
    if c.fixExtrinsics then .fixed found.mount.fromBody else .optimized⟩

def state (anchor : Vec3 α) (seen : InverseDepth α) : ReprojectionState α where
  anchor := anchor
  bearing := seen.bearing.rotation
  inverseDepth := seen.inverseDepth
  bodyRotation := found.vertex.state.pose.rotation
  bodyPosition := found.vertex.state.pose.position
  cameraRotation := found.mount.fromBody.rotation
  cameraPosition := found.mount.fromBody.position
  intrinsics := found.mount.camera.intrinsics.toList
  distortion := found.mount.camera.distortionParameters

def block (c : VisualConfig α) (positive : 0 < c.pixelSigma) (anchor : Vec3 α) (seen : InverseDepth α) :
    ResidualBlock α :=
  ⟨found.error c positive, (found.error c positive).blocks (found.state anchor seen)⟩

theorem distortion_listed :
    (if found.mount.camera.distortionParameters = [] then [] else [found.mount.camera.distortionParameters]) =
      if 0 < found.mount.camera.distortion.kind.count then [found.mount.camera.distortionParameters] else [] := by
  have count : found.mount.camera.distortionParameters.length = found.mount.camera.distortion.kind.count :=
    Vector.length_toList
  by_cases none : found.mount.camera.distortionParameters = []
  · rw [if_pos none, if_neg (by rw [← count, none]; exact Nat.lt_irrefl 0)]
  · rw [if_neg none, if_pos (by rw [← count]; exact List.length_pos_iff.mpr none)]

end Lookups

variable (map : Map α) (c : VisualConfig α) (o : Observation)

-- A block needs no more than the lookups and a positive deviation.
theorem residual_block_ok (anchor : Vec3 α) (seen : InverseDepth α) (b : ResidualBlock α) :
    map.residualBlock c anchor seen o = .ok b ↔
      ∃ found, map.toPoseGraph.Resolves o found ∧ ∃ positive, found.block c positive anchor seen = b := by
  have listed : ∀ (found : Lookups α) (positive : 0 < c.pixelSigma), found.block c positive anchor seen =
      ⟨found.error c positive,
        [anchor.toList, seen.bearing.rotation.toList, [seen.inverseDepth], found.vertex.state.pose.rotation.toList,
          found.vertex.state.pose.position.toList] ++
        (if c.fixExtrinsics then []
          else [found.mount.fromBody.rotation.toList, found.mount.fromBody.position.toList]) ++
        [found.mount.camera.intrinsics.toList] ++
        (if found.mount.camera.distortionParameters = [] then [] else [found.mount.camera.distortionParameters])⟩ := by
    intro found positive
    rw [found.distortion_listed]
    cases mode : c.fixExtrinsics with
    | true => simp [Lookups.block, Lookups.error, Lookups.state, ReprojectionError.blocks, mode]
    | false => simp [Lookups.block, Lookups.error, Lookups.state, ReprojectionError.blocks, mode]
  simp only [Map.residualBlock, bind_ok, create_ok, pure_ok]
  constructor
  · rintro ⟨vertex, isVertex, mission, isMission, mount, isMount, frame, isFrame, keypoint, isKeypoint, _,
      ⟨positive, rfl⟩, rfl⟩
    exact ⟨⟨vertex, mission, frame, keypoint, mount⟩, ⟨isVertex, isMission, isFrame, isKeypoint, isMount⟩, positive,
      listed _ positive⟩
  · rintro ⟨found, resolves, positive, rfl⟩
    exact ⟨_, resolves.vertex, _, resolves.mission, _, resolves.mount, _, resolves.frame, _, resolves.keypoint, _,
      ⟨positive, rfl⟩, (listed found positive).symm⟩

theorem resolved_anchor (found : Lookups α) (resolves : map.toPoseGraph.Resolves o found) :
    map.cameraToMission o = .ok (found.vertex.state.pose * found.mount.fromBody.inverse) := by
  rw [Map.cameraToMission, resolves.vertex, ok_bind, resolves.mission, ok_bind, resolves.mount]
  rfl

section Anchored

variable (l : Landmark α) (stored : map.landmark l.id = .ok l)

include stored

-- What it takes for a landmark to have blocks. One that nobody observes has none of them.
theorem residual_blocks_ok (blocks : List (ResidualBlock α)) :
    map.residualBlocks c l.id = .ok blocks ↔
      ∃ p, l.position = some p ∧
        ((l.observations = [] ∧ blocks = []) ∨
          ∃ first camera seen, l.observations.head? = some first ∧ map.cameraToMission first = .ok camera ∧
            InverseDepth.ofPoint? p camera.position = .ok seen ∧
            List.Forall₂ (fun o b => map.residualBlock c camera.position seen o = .ok b) l.observations blocks) := by
  rw [Map.residualBlocks, stored, bind_ok]
  simp only [lifted_fault_ok, Except.ok.injEq, exists_eq_left']
  cases placed : l.position with
  | none => simp
  | some p =>
      cases observed : l.observations with
      | nil => simp [pure_ok]
      | cons first rest =>
          simp only [bind_ok, lifted_fault_ok, lifted_error_ok, map_m_ok]
          simp

theorem resolved_blocks (p : Vec3 α) (placed : l.position = some p) (first : Observation)
    (observed : l.observations.head? = some first) (camera : Pose α) (located : map.cameraToMission first = .ok camera)
    (seen : InverseDepth α) (pointed : InverseDepth.ofPoint? p camera.position = .ok seen) (positive : 0 < c.pixelSigma)
    (resolves : ∀ o ∈ l.observations, ∃ found, map.toPoseGraph.Resolves o found) :
    ∃ blocks, map.residualBlocks c l.id = .ok blocks ∧
      List.Forall₂ (fun o b => ∃ found, map.toPoseGraph.Resolves o found ∧ found.block c positive camera.position seen = b)
        l.observations blocks := by
  have safe : ¬ Faults (l.observations.mapM fun o => map.residualBlock c camera.position seen o) := by
    rw [map_m_faults]
    rintro ⟨o, member, broken⟩
    obtain ⟨found, resolved⟩ := resolves o member
    rw [(residual_block_ok map c o camera.position seen _).mpr ⟨found, resolved, positive, rfl⟩] at broken
    exact ok_never_faults _ broken
  obtain ⟨blocks, built⟩ := faultless_has_value _ safe
  have each := (map_m_ok _ _ _).mp built
  refine ⟨blocks, (residual_blocks_ok map c l stored blocks).mpr ?_, each.imp fun o b made => ?_⟩
  · exact ⟨p, placed, .inr ⟨first, camera, seen, observed, located, pointed, each⟩⟩
  · obtain ⟨found, resolved, _, same⟩ := (residual_block_ok map c o camera.position seen b).mp made
    exact ⟨found, resolved, same⟩

theorem residual_blocks_refused (p : Vec3 α) (placed : l.position = some p) (first : Observation)
    (observed : l.observations.head? = some first) (camera : Pose α) (located : map.cameraToMission first = .ok camera)
    (close : InverseDepth.ofPoint? p camera.position = .error .landmarkAtAnchor) :
    map.residualBlocks c l.id = .error (.error .landmarkAtAnchor) := by
  obtain ⟨rest, observed⟩ := List.head?_eq_some_iff.mp observed
  rw [Map.residualBlocks, (lifted_fault_ok _ l).mpr stored, ok_bind]
  simp only [placed, observed]
  rw [(lifted_fault_ok _ camera).mpr located, ok_bind, close]
  rfl

end Anchored

end LandmarkMap
