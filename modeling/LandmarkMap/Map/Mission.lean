import LandmarkMap.Camera.Rig

set_option autoImplicit false

/-! Missions: a base frame, a camera rig and the vertices recorded with it. -/

namespace LandmarkMap

structure Mission (α : Type) [Scalar α] where
  id : MissionId
  toGlobal : Pose α
  rig : Rig α
  /-- The vertex that was added first, the invalid one before there is any. -/
  root : VertexId
  vertices : List VertexId

namespace Mission

variable {α : Type} [Scalar α]

def create (id : MissionId) (toGlobal : Pose α) (rig : Rig α) : Except (Fault α) (Mission α) := do
  require (id.isValid = true) .unusableMissionId
  return ⟨id, toGlobal, rig, Id.invalid, []⟩

def addVertex (m : Mission α) (id : VertexId) : Mission α :=
  { m with root := if m.root.isValid then m.root else id, vertices := m.vertices ++ [id] }

end Mission

end LandmarkMap
