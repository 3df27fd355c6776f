import LandmarkMap.Map.PoseGraph

set_option autoImplicit false

/-!
Maps and the operations that change them. Landmarks lie in the order in which they were added, and
an index finds them by identifier. An operation is a state transformer that may fault; what it wrote
before a fault stays written.
-/

namespace LandmarkMap

structure Map (α : Type) [Scalar α] extends PoseGraph α where
  landmarks : List (Landmark α)
  index : Table LandmarkId Nat

abbrev Update (α : Type) [Scalar α] (β : Type) := ExceptT (Fault α) (StateM (Map α)) β

namespace Map

variable {α : Type} [Scalar α]

def empty : Map α := ⟨⟨Table.empty, Table.empty⟩, [], Table.empty⟩

def slot (map : Map α) (id : LandmarkId) : Except (Fault α) Nat :=
  if id.isValid = false then .error .invalidLandmarkId
  else
    match map.index.get? id with
    | some i => .ok i
    | none => .error (.landmarkMissing id)

def landmark (map : Map α) (id : LandmarkId) : Except (Fault α) (Landmark α) := do
  fetch map.landmarks (← map.slot id)

def landmarkIds (map : Map α) : List LandmarkId := map.landmarks.map (·.id)

def landmarksOf (map : Map α) (id : MissionId) : Except (Fault α) (List LandmarkId) := do
  require (map.missions.contains id = true) (.missionMissing id)
  return (map.landmarks.filter (·.mission = id)).map (·.id)

def requireMissions (map : Map α) : List MissionId → Except (Fault α) Unit
  | [] => .ok ()
  | id :: rest => do
      require (map.missions.contains id = true) (.missionMissing id)
      requireMissions map rest

def vertexPositions (map : Map α) (id : MissionId) : Except (Fault α) (List (Vec3 α)) := do
  (← map.mission id).vertices.mapM fun v => return (← map.bodyToGlobal v).position

/-- Puts a mission into the map, in the place of one with the same identifier; having replaced one
is a fault. -/
def addMission (mission : Mission α) : Update α Unit := do
  let map ← get
  set { map with missions := map.missions.insert mission.id mission }
  if map.missions.contains mission.id then throw (.missionExists mission.id)

/-- Appends a vertex to its mission and puts it into the map, in the place of one with the same
identifier; having replaced one is a fault. -/
def addVertex (vertex : Vertex α) : Update α Unit := do
  let map ← get
  match map.missions.get? vertex.mission with
  | none => throw (.vertexMissionMissing vertex.id vertex.mission)
  | some mission =>
      if vertex.frames.length ≠ mission.rig.mounts.length then throw .frameCount
      set { map with
        missions := map.missions.modify vertex.mission (·.addVertex vertex.id)
        vertices := map.vertices.insert vertex.id vertex }
      if map.vertices.contains vertex.id then throw (.vertexExists vertex.id)

def addLandmark (landmark : Landmark α) : Update α Unit := do
  let map ← get
  if map.missions.contains landmark.mission = false then
    throw (.landmarkMissionMissing landmark.id)
  if map.index.contains landmark.id then throw (.landmarkExists landmark.id)
  set { map with
    landmarks := map.landmarks ++ [landmark]
    index := map.index.insert landmark.id map.landmarks.length }

def addKeypoint (vertex : VertexId) (frame : Nat) (keypoint : Vec2 α) (landmark : LandmarkId) :
    Update α Nat := do
  let map ← get
  let v ← map.vertex vertex
  let f ← v.frame frame
  set { map with vertices := map.vertices.modify vertex (·.addKeypoint frame keypoint landmark) }
  return f.keypoints.length

def addObservation (landmark : LandmarkId) (vertex : VertexId) (frame : Nat) (keypoint : Vec2 α) :
    Update α Observation := do
  let i ← (← get).slot landmark
  let k ← addKeypoint vertex frame keypoint landmark
  let observation : Observation := ⟨vertex, frame, k⟩
  modify fun map => { map with landmarks := map.landmarks.modify i (·.observe observation) }
  return observation

def updateLandmark (id : LandmarkId) (change : Landmark α → Landmark α) : Update α Unit := do
  let i ← (← get).slot id
  modify fun map => { map with landmarks := map.landmarks.modify i change }

def setPosition (id : LandmarkId) (p : Vec3 α) : Update α Unit := updateLandmark id (·.place p)

def setQuality (id : LandmarkId) (quality : Quality) : Update α Unit :=
  updateLandmark id (·.label quality)

def setPose (id : VertexId) (pose : Pose α) : Update α Unit := do
  let map ← get
  let _ ← map.vertex id
  set { map with vertices := map.vertices.modify id fun v =>
    { v with state := { v.state with pose } } }

end Map

end LandmarkMap
