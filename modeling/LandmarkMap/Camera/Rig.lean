import LandmarkMap.Camera.Pinhole
import LandmarkMap.Geometry.Pose

set_option autoImplicit false

/-! Rigs: cameras mounted on one body. -/

namespace LandmarkMap

structure MountedCamera (α : Type) [Scalar α] where
  camera : Pinhole α
  fromBody : Pose α

structure Rig (α : Type) [Scalar α] where
  mounts : List (MountedCamera α)

namespace Rig

variable {α : Type} [Scalar α]

def ofParts (poses : List (Pose α)) (cameras : List (Pinhole α)) : Except (Fault α) (Rig α) := do
  require (poses.length = cameras.length) .rigLength
  return ⟨(cameras.zip poses).map fun (camera, pose) => ⟨camera, pose⟩⟩

def mount (r : Rig α) (frame : Nat) : Except (Fault α) (MountedCamera α) := fetch r.mounts frame

end Rig

end LandmarkMap
