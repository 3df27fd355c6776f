import LandmarkMap.Proofs.Geometry.Poses
import LandmarkMap.Proofs.Map.PassFaults

set_option autoImplicit false

namespace LandmarkMap

variable {α : Type} [Scalar α] (pose : Pose α → Prop) (camera : Pinhole α → Prop)

def MountedCamera.Meets (mount : MountedCamera α) : Prop := pose mount.fromBody ∧ camera mount.camera

-- A graph holds poses and cameras of one kind only.
structure PoseGraph.Holds (g : PoseGraph α) : Prop where
  bases : ∀ id m, g.missions.get? id = some m → pose m.toGlobal
  mounts : ∀ id m, g.missions.get? id = some m → ∀ mount ∈ m.rig.mounts, mount.Meets pose camera
  bodies : ∀ id v, g.vertices.get? id = some v → pose v.state.pose

-- Nothing that an operation brings in is of another kind.
def Operation.Brings : Operation α → Prop
  | addMission _ toGlobal rig => pose toGlobal ∧ ∀ mount ∈ rig.mounts, mount.Meets pose camera
  | addVertex vertex _ => pose vertex.state.pose
  | setPose _ moved => pose moved
  | _ => True

theorem empty_holds : (Map.empty : Map α).toPoseGraph.Holds pose camera := by
  constructor
  · intro id m stored
    cases stored
  · intro id m stored
    cases stored
  · intro id v stored
    cases stored

theorem insert_mission_holds (g : PoseGraph α) (id : MissionId) (mission : Mission α) (holds : g.Holds pose camera)
    (base : pose mission.toGlobal) (mounts : ∀ mount ∈ mission.rig.mounts, mount.Meets pose camera) :
    PoseGraph.Holds pose camera { g with missions := g.missions.insert id mission } := by
  refine ⟨fun key m stored => ?_, fun key m stored => ?_, holds.bodies⟩
  · by_cases here : key = id
    · rw [Table.get_insert, if_pos here] at stored
      cases stored
      exact base
    · exact holds.bases key m ((Table.get_insert_other _ here _).symm.trans stored)
  · by_cases here : key = id
    · rw [Table.get_insert, if_pos here] at stored
      cases stored
      exact mounts
    · exact holds.mounts key m ((Table.get_insert_other _ here _).symm.trans stored)

theorem insert_vertex_holds (g : PoseGraph α) (vertex : Vertex α) (holds : g.Holds pose camera)
    (body : pose vertex.state.pose) :
    PoseGraph.Holds pose camera
      { missions := g.missions.modify vertex.mission (·.addVertex vertex.id)
        vertices := g.vertices.insert vertex.id vertex } := by
  have listed : ∀ key m, (g.missions.modify vertex.mission (·.addVertex vertex.id)).get? key = some m →
      ∃ old, g.missions.get? key = some old ∧ m.toGlobal = old.toGlobal ∧ m.rig = old.rig := by
    intro key m stored
    by_cases here : key = vertex.mission
    · rw [Table.get_modify, if_pos here] at stored
      obtain ⟨old, found, rfl⟩ := Option.map_eq_some_iff.mp stored
      exact ⟨old, found, rfl, rfl⟩
    · exact ⟨m, (Table.get_modify_other _ here _).symm.trans stored, rfl, rfl⟩
  refine ⟨fun key m stored => ?_, fun key m stored => ?_, fun key v stored => ?_⟩
  · obtain ⟨old, found, base, _⟩ := listed key m stored
    exact base ▸ holds.bases key old found
  · obtain ⟨old, found, _, rig⟩ := listed key m stored
    exact rig ▸ holds.mounts key old found
  · by_cases here : key = vertex.id
    · rw [Table.get_insert, if_pos here] at stored
      cases stored
      exact body
    · exact holds.bodies key v ((Table.get_insert_other _ here _).symm.trans stored)

theorem modify_vertex_holds (g : PoseGraph α) (id : VertexId) (change : Vertex α → Vertex α)
    (holds : g.Holds pose camera) (body : ∀ v : Vertex α, pose v.state.pose → pose (change v).state.pose) :
    PoseGraph.Holds pose camera { g with vertices := g.vertices.modify id change } := by
  refine ⟨holds.bases, holds.mounts, fun key v stored => ?_⟩
  by_cases here : key = id
  · rw [Table.get_modify, if_pos here] at stored
    obtain ⟨old, found, rfl⟩ := Option.map_eq_some_iff.mp stored
    exact body old (holds.bodies key old found)
  · exact holds.bodies key v ((Table.get_modify_other _ here _).symm.trans stored)

theorem operation_keeps_holds [Spectral α] (operation : Operation α) (before after : Map α)
    (brings : operation.Brings pose camera) (holds : before.toPoseGraph.Holds pose camera)
    (done : operation.apply before = .ok after) : after.toPoseGraph.Holds pose camera := by
  cases operation with
  | addMission id toGlobal rig =>
      obtain ⟨_, _, rfl⟩ := (add_mission_ok _ _ _ _ _).mp done
      exact insert_mission_holds pose camera before.toPoseGraph id _ holds brings.1 brings.2
  | addVertex vertex built =>
      obtain ⟨_, _, _, _, rfl⟩ := (add_vertex_ok _ _ _ _).mp done
      exact insert_vertex_holds pose camera before.toPoseGraph vertex holds brings
  | addLandmark landmark built =>
      obtain ⟨_, _, rfl⟩ := (add_landmark_ok _ _ _ _).mp done
      exact holds
  | addKeypoint vertex frame keypoint landmark =>
      obtain ⟨_, _, _, _, rfl⟩ := (add_keypoint_ok _ _ _ _ _ _).mp done
      exact modify_vertex_holds pose camera before.toPoseGraph vertex _ holds fun _ kept => kept
  | addObservation landmark vertex frame keypoint =>
      obtain ⟨_, _, _, _, _, _, _, rfl⟩ := (add_observation_ok _ _ _ _ _ _).mp done
      exact modify_vertex_holds pose camera before.toPoseGraph vertex _ holds fun _ kept => kept
  | setPose vertex moved =>
      obtain ⟨_, _, rfl⟩ := (set_pose_ok _ _ _ _).mp done
      exact modify_vertex_holds pose camera before.toPoseGraph vertex _ holds fun _ _ => brings
  | pass change =>
      rw [(pass_effect change before after done).graph]
      exact holds

theorem run_holds [Spectral α] (operations : List (Operation α)) (map : Map α)
    (brings : ∀ operation ∈ operations, operation.Brings pose camera)
    (done : Operation.run operations Map.empty = .ok map) : map.toPoseGraph.Holds pose camera := by
  refine run_keeps (fun history map =>
    (∀ operation ∈ history, operation.Brings pose camera) → map.toPoseGraph.Holds pose camera)
    (fun _ => empty_holds pose camera) ?_ operations map done brings
  intro history operation before after sofar stepped allowed
  exact operation_keeps_holds pose camera operation before after
    (allowed operation (List.mem_append_right _ List.mem_cons_self))
    (sofar fun earlier member => allowed earlier (List.mem_append_left _ member)) stepped

theorem holds_weaken (other : Pinhole α → Prop) (weaker : ∀ c, camera c → other c) (g : PoseGraph α)
    (holds : g.Holds pose camera) : g.Holds pose other := by
  refine ⟨holds.bases, fun id m stored mount member => ?_, holds.bodies⟩
  obtain ⟨mounted, lens⟩ := holds.mounts id m stored mount member
  exact ⟨mounted, weaker mount.camera lens⟩

theorem resolved_held (g : PoseGraph α) (holds : g.Holds pose camera) (o : Observation) (found : Lookups α)
    (resolves : g.Resolves o found) :
    pose found.mission.toGlobal ∧ pose found.vertex.state.pose ∧ found.mount.Meets pose camera := by
  have mission := (mission_ok _ _ _).mp resolves.mission
  have mount := List.mem_of_getElem? ((fetch_ok _ _ _).mp resolves.mount)
  exact ⟨holds.bases _ _ mission, holds.bodies _ _ ((vertex_ok _ _ _).mp resolves.vertex),
    holds.mounts _ _ mission _ mount⟩

theorem rigid_base (g : PoseGraph ℝ) (lens : Pinhole ℝ → Prop) (holds : g.Holds Pose.IsRigid lens) (id : MissionId)
    (own : Pose ℝ) (found : g.missionToGlobal id = .ok own) : own.IsRigid := by
  obtain ⟨m, stored, based⟩ := (bind_ok _ _ _).mp found
  cases (pure_ok _ _).mp based
  exact holds.bases _ _ ((mission_ok _ _ _).mp stored)

theorem rigid_body (g : PoseGraph ℝ) (lens : Pinhole ℝ → Prop) (holds : g.Holds Pose.IsRigid lens) (id : VertexId)
    (body : Pose ℝ) (found : g.bodyToGlobal id = .ok body) : body.IsRigid := by
  obtain ⟨v, stored, found⟩ := (bind_ok _ _ _).mp found
  obtain ⟨own, home, found⟩ := (bind_ok _ _ _).mp found
  cases (pure_ok _ _).mp found
  exact rigid_product _ _ (rigid_base g lens holds _ own home) (holds.bodies _ _ ((vertex_ok _ _ _).mp stored))

theorem rigid_camera (g : PoseGraph ℝ) (lens : Pinhole ℝ → Prop) (holds : g.Holds Pose.IsRigid lens) (id : VertexId)
    (frame : Nat) (camera : Pose ℝ) (found : g.cameraToGlobal id frame = .ok camera) : camera.IsRigid := by
  obtain ⟨v, _, found⟩ := (bind_ok _ _ _).mp found
  obtain ⟨m, stored, found⟩ := (bind_ok _ _ _).mp found
  obtain ⟨mount, mounted, found⟩ := (bind_ok _ _ _).mp found
  obtain ⟨body, located, found⟩ := (bind_ok _ _ _).mp found
  cases (pure_ok _ _).mp found
  obtain ⟨pose, _⟩ := holds.mounts _ _ ((mission_ok _ _ _).mp stored) mount
    (List.mem_of_getElem? ((fetch_ok _ _ _).mp mounted))
  exact rigid_product _ _ (rigid_body g lens holds id body located) (rigid_inverse _ pose)

end LandmarkMap
