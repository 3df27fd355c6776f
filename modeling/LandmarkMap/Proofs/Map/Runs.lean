import LandmarkMap.Geometry.Decomposition
import LandmarkMap.Proofs.Camera.Projection
import LandmarkMap.Proofs.Map.Passes

set_option autoImplicit false

namespace LandmarkMap

variable {α : Type}

-- The vertices and landmarks that can exist: made by their constructor and changed by their own
-- operations since.

inductive Vertex.Built : Vertex α → Prop where
  | create (id : VertexId) (mission : MissionId) (time : Timestamp) (state : BodyState α)
      (frames : Nat) (vertex : Vertex α)
      (made : Vertex.create id mission time state frames = .ok vertex) : Built vertex
  | addKeypoint (vertex : Vertex α) (frame : Nat) (keypoint : Vec2 α) (landmark : LandmarkId)
      (built : Built vertex) : Built (vertex.addKeypoint frame keypoint landmark)
  | setState (vertex : Vertex α) (state : BodyState α) (built : Built vertex) :
      Built { vertex with state }

inductive Landmark.Built : Landmark α → Prop where
  | create (id : LandmarkId) (mission : MissionId) (landmark : Landmark α)
      (made : Landmark.create id mission = .ok landmark) : Built landmark
  | place (landmark : Landmark α) (position : Vec3 α) (built : Built landmark) :
      Built (landmark.place position)
  | label (landmark : Landmark α) (quality : Quality) (built : Built landmark) :
      Built (landmark.label quality)
  | observe (landmark : Landmark α) (observation : Observation) (built : Built landmark) :
      Built (landmark.observe observation)

-- The landmark that each of the small maps below begins with.
theorem fresh_landmark_built : (⟨Id.ofNat 5, Id.ofNat 1, none, .unknown, []⟩ : Landmark α).Built :=
  .create (Id.ofNat 5) (Id.ofNat 1) _ rfl

variable [Scalar α]

inductive Operation (α : Type) [Scalar α] where
  | addMission (id : MissionId) (toGlobal : Pose α) (rig : Rig α)
  | addVertex (vertex : Vertex α) (built : vertex.Built)
  | addLandmark (landmark : Landmark α) (built : landmark.Built)
  | addKeypoint (vertex : VertexId) (frame : Nat) (keypoint : Vec2 α) (landmark : LandmarkId)
  | addObservation (landmark : LandmarkId) (vertex : VertexId) (frame : Nat) (keypoint : Vec2 α)
  | setPose (vertex : VertexId) (pose : Pose α)
  | pass (change : Pass α)

namespace Operation

def apply [Spectral α] : Operation α → Map α → Except (Fault α) (Map α)
  | addMission id toGlobal rig, map => do
      let mission ← Mission.create id toGlobal rig
      (Map.addMission mission).perform map
  | addVertex vertex _, map => (Map.addVertex vertex).perform map
  | addLandmark landmark _, map => (Map.addLandmark landmark).perform map
  | addKeypoint vertex frame keypoint landmark, map =>
      (Map.addKeypoint vertex frame keypoint landmark).perform map
  | addObservation landmark vertex frame keypoint, map =>
      (Map.addObservation landmark vertex frame keypoint).perform map
  | setPose vertex pose, map => (Map.setPose vertex pose).perform map
  | pass change, map => change.apply map

-- A run ends at the first fault.
def run [Spectral α] (operations : List (Operation α)) (map : Map α) : Except (Fault α) (Map α) :=
  operations.foldlM (fun map operation => operation.apply map) map

end Operation

def Pass.run [Spectral α] (passes : List (Pass α)) (map : Map α) : Except (Fault α) (Map α) :=
  passes.foldlM (fun map pass => pass.apply map) map

theorem run_keeps [Spectral α] (inv : List (Operation α) → Map α → Prop) (initial : inv [] Map.empty)
    (step : ∀ history operation before after, inv history before →
      operation.apply before = .ok after → inv (history ++ [operation]) after)
    (operations : List (Operation α)) (map : Map α)
    (done : Operation.run operations Map.empty = .ok map) : inv operations map :=
  fold_keeps _ inv Map.empty initial step operations map done

-- What each operation but a pass does to a map when it succeeds, read off its equation.

theorem add_mission_ok [Spectral α] (id : MissionId) (toGlobal : Pose α) (rig : Rig α)
    (before after : Map α) :
    (Operation.addMission id toGlobal rig).apply before = .ok after ↔
      id.isValid = true ∧ before.missions.get? id = none ∧
      { before with missions := before.missions.insert id ⟨id, toGlobal, rig, Id.invalid, []⟩ } = after := by
  simp only [Operation.apply, Mission.create, bind_assoc, require_bind_ok, pure_bind,
    perform_add_mission, pure_ok, Table.contains_none]

theorem add_vertex_ok [Spectral α] (vertex : Vertex α) (built : vertex.Built) (before after : Map α) :
    (Operation.addVertex vertex built).apply before = .ok after ↔
      ∃ mission, before.missions.get? vertex.mission = some mission ∧
        vertex.frames.length = mission.rig.mounts.length ∧ before.vertices.get? vertex.id = none ∧
        { before with
          missions := before.missions.modify vertex.mission (·.addVertex vertex.id)
          vertices := before.vertices.insert vertex.id vertex } = after := by
  rw [Operation.apply, perform_add_vertex]
  cases found : before.missions.get? vertex.mission with
  | none => simp
  | some mission =>
      simp only [require_bind_ok, pure_ok, Table.contains_none, Option.some.injEq, exists_eq_left']

theorem add_landmark_ok [Spectral α] (landmark : Landmark α) (built : landmark.Built)
    (before after : Map α) :
    (Operation.addLandmark landmark built).apply before = .ok after ↔
      before.missions.contains landmark.mission = true ∧ before.index.get? landmark.id = none ∧
      { before with
        landmarks := before.landmarks ++ [landmark]
        index := before.index.insert landmark.id before.landmarks.length } = after := by
  simp only [Operation.apply, perform_add_landmark, require_bind_ok, pure_ok, Table.contains_none]

theorem add_keypoint_ok [Spectral α] (vertex : VertexId) (frame : Nat) (keypoint : Vec2 α)
    (landmark : LandmarkId) (before after : Map α) :
    (Operation.addKeypoint vertex frame keypoint landmark).apply before = .ok after ↔
      ∃ v f, before.vertices.get? vertex = some v ∧ v.frames[frame]? = some f ∧
        { before with
          vertices := before.vertices.modify vertex (·.addKeypoint frame keypoint landmark) } = after := by
  simp only [Operation.apply, perform_add_keypoint, bind_ok, vertex_ok, frame_ok, pure_ok]
  constructor
  · rintro ⟨v, found, f, shown, same⟩
    exact ⟨v, f, found, shown, same⟩
  · rintro ⟨v, f, found, shown, same⟩
    exact ⟨v, found, f, shown, same⟩

theorem add_observation_ok [Spectral α] (landmark : LandmarkId) (vertex : VertexId) (frame : Nat)
    (keypoint : Vec2 α) (before after : Map α) :
    (Operation.addObservation landmark vertex frame keypoint).apply before = .ok after ↔
      ∃ i v f, landmark.isValid = true ∧ before.index.get? landmark = some i ∧
        before.vertices.get? vertex = some v ∧ v.frames[frame]? = some f ∧
        { before with
          vertices := before.vertices.modify vertex (·.addKeypoint frame keypoint landmark)
          landmarks := before.landmarks.modify i (·.observe ⟨vertex, frame, f.keypoints.length⟩) } = after := by
  simp only [Operation.apply, perform_add_observation, bind_ok, slot_ok, vertex_ok, frame_ok, pure_ok]
  constructor
  · rintro ⟨i, ⟨valid, stored⟩, v, found, f, shown, same⟩
    exact ⟨i, v, f, valid, stored, found, shown, same⟩
  · rintro ⟨i, v, f, valid, stored, found, shown, same⟩
    exact ⟨i, ⟨valid, stored⟩, v, found, f, shown, same⟩

theorem set_pose_ok [Spectral α] (id : VertexId) (pose : Pose α) (before after : Map α) :
    (Operation.setPose id pose).apply before = .ok after ↔
      ∃ v, before.vertices.get? id = some v ∧
        { before with
          vertices := before.vertices.modify id fun v => { v with state := { v.state with pose } } } = after := by
  simp only [Operation.apply, perform_set_pose, bind_ok, vertex_ok, pure_ok]

-- A mission with one camera and two vertices, from both of which one landmark is seen.

def restingVertex (id : VertexId) : Vertex Float :=
  ⟨id, Id.ofNat 1, ⟨0⟩, BodyState.atPose Pose.identity, [Frame.empty]⟩

def twoViews : List (Operation Float) :=
  [.addMission (Id.ofNat 1) Pose.identity ⟨[⟨plainCamera, Pose.identity⟩]⟩,
    .addVertex (restingVertex (Id.ofNat 2)) (.create (Id.ofNat 2) (Id.ofNat 1) ⟨0⟩ _ 1 _ rfl),
    .addVertex (restingVertex (Id.ofNat 3)) (.create (Id.ofNat 3) (Id.ofNat 1) ⟨0⟩ _ 1 _ rfl),
    .addLandmark ⟨Id.ofNat 5, Id.ofNat 1, none, .unknown, []⟩ fresh_landmark_built,
    .addObservation (Id.ofNat 5) (Id.ofNat 2) 0 ⟨1, 1⟩,
    .addKeypoint (Id.ofNat 3) 0 ⟨1, 1⟩ Id.invalid,
    .addObservation (Id.ofNat 5) (Id.ofNat 3) 0 ⟨1, 1⟩,
    .pass (.setPosition (Id.ofNat 5) ⟨0, 0, 4⟩)]

end LandmarkMap
