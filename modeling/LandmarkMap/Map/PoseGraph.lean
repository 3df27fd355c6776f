import LandmarkMap.Map.Table
import LandmarkMap.Map.Mission
import LandmarkMap.Map.Vertex
import LandmarkMap.Map.Landmark

set_option autoImplicit false

/-!
The part of a map that passes over landmarks only read: missions and vertices, and the transforms
between the frames of cameras, bodies, missions and the world.
-/

namespace LandmarkMap

structure PoseGraph (α : Type) [Scalar α] where
  missions : Table MissionId (Mission α)
  vertices : Table VertexId (Vertex α)

namespace PoseGraph

variable {α : Type} [Scalar α]

def mission (g : PoseGraph α) (id : MissionId) : Except (Fault α) (Mission α) :=
  match g.missions.get? id with
  | some mission => .ok mission
  | none => .error (.missionMissing id)

def vertex (g : PoseGraph α) (id : VertexId) : Except (Fault α) (Vertex α) :=
  match g.vertices.get? id with
  | some vertex => .ok vertex
  | none => .error (.vertexMissing id)

def missionIds (g : PoseGraph α) : List MissionId := Id.sort g.missions.keys

def vertexIds (g : PoseGraph α) : List VertexId := Id.sort g.vertices.keys

def missionToGlobal (g : PoseGraph α) (id : MissionId) : Except (Fault α) (Pose α) := do
  return (← g.mission id).toGlobal

def bodyToMission (g : PoseGraph α) (id : VertexId) : Except (Fault α) (Pose α) := do
  return (← g.vertex id).state.pose

def bodyToGlobal (g : PoseGraph α) (id : VertexId) : Except (Fault α) (Pose α) := do
  let vertex ← g.vertex id
  return (← g.missionToGlobal vertex.mission) * vertex.state.pose

def cameraToGlobal (g : PoseGraph α) (id : VertexId) (frame : Nat) : Except (Fault α) (Pose α) := do
  let vertex ← g.vertex id
  let mission ← g.mission vertex.mission
  let mount ← mission.rig.mount frame
  return (← g.bodyToGlobal id) * mount.fromBody.inverse

def landmarkInGlobal (g : PoseGraph α) (l : Landmark α) : Except (Fault α) (Vec3 α) :=
  match l.position with
  | none => .error (.positionMissing l.id)
  | some p => do return (← g.missionToGlobal l.mission).apply p

def frameLandmarks (g : PoseGraph α) (id : VertexId) (frame : Nat) :
    Except (Fault α) (List LandmarkId) := do
  return (← (← g.vertex id).frame frame).landmarks

end PoseGraph

end LandmarkMap
