import LandmarkMap.Map.Timestamp
import LandmarkMap.Geometry.Pose

set_option autoImplicit false

/-! Vertices: the state of the body at one time and what its cameras saw. -/

namespace LandmarkMap

structure Frame (α : Type) where
  keypoints : List (Vec2 α)
  /-- The landmark that each keypoint shows, the invalid one where none is known. -/
  landmarks : List LandmarkId

def Frame.empty {α : Type} : Frame α := ⟨[], []⟩

def Frame.add {α : Type} (f : Frame α) (keypoint : Vec2 α) (landmark : LandmarkId) : Frame α :=
  ⟨f.keypoints ++ [keypoint], f.landmarks ++ [landmark]⟩

structure BodyState (α : Type) where
  /-- The transform from the body to the mission. -/
  pose : Pose α
  velocity : Vec3 α
  accelerometerBias : Vec3 α
  gyroscopeBias : Vec3 α
  /-- Of position, rotation, velocity and both biases. -/
  covariance : Option (Mat 15 15 α)

def BodyState.atPose {α : Type} [Scalar α] (pose : Pose α) : BodyState α :=
  ⟨pose, Vec3.zero, Vec3.zero, Vec3.zero, none⟩

structure Vertex (α : Type) where
  id : VertexId
  mission : MissionId
  time : Timestamp
  state : BodyState α
  frames : List (Frame α)

namespace Vertex

variable {α : Type}

/-- A vertex whose frames are empty, six words each. -/
def create (id : VertexId) (mission : MissionId) (time : Timestamp) (state : BodyState α)
    (frames : Nat) : Except (Fault α) (Vertex α) := do
  require (id.isValid = true) .unusableVertexId
  Word.reserve frames 48
  return ⟨id, mission, time, state, List.replicate frames Frame.empty⟩

def frame (v : Vertex α) (i : Nat) : Except (Fault α) (Frame α) := fetch v.frames i

def position (v : Vertex α) : Vec3 α := v.state.pose.position

def landmarks (v : Vertex α) : List LandmarkId := v.frames.flatMap (·.landmarks)

def addKeypoint (v : Vertex α) (frame : Nat) (keypoint : Vec2 α) (landmark : LandmarkId) :
    Vertex α :=
  { v with frames := v.frames.modify frame (·.add keypoint landmark) }

end Vertex

end LandmarkMap
