import LandmarkMap.Solver.Reprojection
import LandmarkMap.Map.Basic
import LandmarkMap.Config

set_option autoImplicit false

/-! The reprojection errors of a landmark of a map, one per observation. -/

namespace LandmarkMap

namespace Map

variable {α : Type} [Scalar α]

def cameraToMission (map : Map α) (o : Observation) : Except (Fault α) (Pose α) := do
  let vertex ← map.vertex o.vertex
  let mission ← map.mission vertex.mission
  let mount ← mission.rig.mount o.frame
  return vertex.state.pose * mount.fromBody.inverse

def residualBlock (map : Map α) (c : VisualConfig α) (anchor : Vec3 α) (seen : InverseDepth α)
    (o : Observation) : Except (Fault α) (ResidualBlock α) := do
  let vertex ← map.vertex o.vertex
  let mission ← map.mission vertex.mission
  let mount ← mission.rig.mount o.frame
  let keypoint ← fetch (← vertex.frame o.frame).keypoints o.keypoint
  let body := vertex.state.pose
  let camera := mount.camera
  let extrinsics := if c.fixExtrinsics then .fixed mount.fromBody else .optimized
  let extrinsicBlocks :=
    if c.fixExtrinsics then []
    else [mount.fromBody.rotation.toList, mount.fromBody.position.toList]
  let distortion := camera.distortionParameters
  let error ← ReprojectionError.create keypoint c.pixelSigma camera extrinsics
  return ⟨error,
    [anchor.toList, seen.bearing.rotation.toList, [seen.inverseDepth],
      body.rotation.toList, body.position.toList] ++
    extrinsicBlocks ++ [camera.intrinsics.toList] ++
    (if distortion = [] then [] else [distortion])⟩

/-- The reprojection errors of a triangulated landmark, anchored in the camera that observed it
first. -/
def residualBlocks (map : Map α) (c : VisualConfig α) (id : LandmarkId) :
    Except (Failure α) (List (ResidualBlock α)) := do
  let landmark ← map.landmark id
  match landmark.position, landmark.observations with
  | none, _ => throw (.fault (.anchoringUntriangulated id))
  | some _, [] => return []
  | some p, first :: rest =>
      let anchor := (← map.cameraToMission first).position
      let seen ← InverseDepth.ofPoint? p anchor
      (first :: rest).mapM fun o => (map.residualBlock c anchor seen o : Except (Fault α) _)

end Map

end LandmarkMap
