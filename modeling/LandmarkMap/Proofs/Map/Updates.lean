import LandmarkMap.Map.Basic
import LandmarkMap.Proofs.Outcome

set_option autoImplicit false

namespace LandmarkMap

variable {α β γ : Type} [Scalar α]

-- The map that an update leaves behind. What a faulting update wrote is of no use to its caller.
def Update.perform (operation : Update α β) (map : Map α) : Except (Fault α) (Map α) :=
  match operation.run.run map with
  | (.ok _, after) => .ok after
  | (.error fault, _) => .error fault

namespace Update

theorem run_bind (first : Update α β) (next : β → Update α γ) (map : Map α) :
    (first >>= next).run.run map = match first.run.run map with
      | (.ok value, after) => (next value).run.run after
      | (.error fault, after) => (.error fault, after) := by
  change (match first.run.run map with
    | (outcome, after) => (ExceptT.bindCont next outcome).run after) = _
  obtain ⟨outcome, after⟩ := first.run.run map
  cases outcome with
  | ok value => rfl
  | error fault => rfl

theorem run_lift (outcome : Except (Fault α) β) (map : Map α) :
    (liftM outcome : Update α β).run.run map = (outcome, map) := rfl

theorem run_get (map : Map α) : (get : Update α (Map α)).run.run map = (.ok map, map) := rfl

theorem run_set (map after : Map α) :
    (set after : Update α PUnit).run.run map = (.ok (), after) := rfl

end Update

open Update

theorem vertex_ok (g : PoseGraph α) (id : VertexId) (vertex : Vertex α) :
    g.vertex id = .ok vertex ↔ g.vertices.get? id = some vertex := by
  unfold PoseGraph.vertex
  cases g.vertices.get? id with
  | none => simp
  | some other => simp

theorem mission_ok (g : PoseGraph α) (id : MissionId) (mission : Mission α) :
    g.mission id = .ok mission ↔ g.missions.get? id = some mission := by
  unfold PoseGraph.mission
  cases g.missions.get? id with
  | none => simp
  | some other => simp

omit [Scalar α] in
theorem frame_ok (v : Vertex α) (i : Nat) (f : Frame α) :
    (v.frame i : Except (Fault α) (Frame α)) = .ok f ↔ v.frames[i]? = some f :=
  fetch_ok v.frames i f

theorem slot_ok (map : Map α) (id : LandmarkId) (i : Nat) :
    map.slot id = .ok i ↔ id.isValid = true ∧ map.index.get? id = some i := by
  unfold Map.slot
  cases id.isValid with
  | false => simp
  | true =>
      cases map.index.get? id with
      | none => simp
      | some other => simp

-- Each operation on the map, first with what it leaves behind if it faults, then read as one step that faults
-- or returns the next map.

-- The mission is written whether it may be or not.
theorem run_add_mission (mission : Mission α) (map : Map α) :
    (Map.addMission mission).run.run map =
      (require (map.missions.contains mission.id = false) (.missionExists mission.id),
        { map with missions := map.missions.insert mission.id mission }) := by
  simp only [Map.addMission, run_bind, run_get, run_set]
  cases map.missions.contains mission.id with
  | true => rfl
  | false => rfl

theorem perform_add_mission (mission : Mission α) (map : Map α) :
    (Map.addMission mission).perform map = (do
      require (map.missions.contains mission.id = false) (.missionExists mission.id)
      return { map with missions := map.missions.insert mission.id mission }) := by
  rw [perform, run_add_mission]
  cases (require (map.missions.contains mission.id = false) (.missionExists mission.id) : Except (Fault α) Unit) with
  | error fault => rfl
  | ok _ => rfl

-- That there is such a vertex already is found out by writing it.
theorem run_add_vertex (vertex : Vertex α) (map : Map α) :
    (Map.addVertex vertex).run.run map =
      match map.missions.get? vertex.mission with
      | none => (.error (.vertexMissionMissing vertex.id vertex.mission), map)
      | some mission =>
          if vertex.frames.length = mission.rig.mounts.length then
            (require (map.vertices.contains vertex.id = false) (.vertexExists vertex.id), { map with
              missions := map.missions.modify vertex.mission (·.addVertex vertex.id)
              vertices := map.vertices.insert vertex.id vertex })
          else (.error .frameCount, map) := by
  simp only [Map.addVertex, run_bind, run_get]
  cases map.missions.get? vertex.mission with
  | none => rfl
  | some mission =>
      by_cases fits : vertex.frames.length = mission.rig.mounts.length
      · simp only [fits, ne_eq, not_true_eq_false, if_false, run_bind, run_set, if_true]
        cases map.vertices.contains vertex.id with
        | true => rfl
        | false => rfl
      · simp only [fits, ne_eq, not_false_eq_true, if_true, if_false]
        rfl

theorem perform_add_vertex (vertex : Vertex α) (map : Map α) :
    (Map.addVertex vertex).perform map =
      match map.missions.get? vertex.mission with
      | none => .error (.vertexMissionMissing vertex.id vertex.mission)
      | some mission => do
          require (vertex.frames.length = mission.rig.mounts.length) .frameCount
          require (map.vertices.contains vertex.id = false) (.vertexExists vertex.id)
          return { map with
            missions := map.missions.modify vertex.mission (·.addVertex vertex.id)
            vertices := map.vertices.insert vertex.id vertex } := by
  rw [perform, run_add_vertex]
  cases map.missions.get? vertex.mission with
  | none => rfl
  | some mission =>
      by_cases fits : vertex.frames.length = mission.rig.mounts.length
      · simp only [if_pos fits, require_bind _ _ _ fits]
        cases (require (map.vertices.contains vertex.id = false) (.vertexExists vertex.id) : Except (Fault α) Unit) with
        | error fault => rfl
        | ok _ => rfl
      · simp only [if_neg fits, require_missed _ _ _ fits]

theorem run_add_landmark (landmark : Landmark α) (map : Map α) :
    (Map.addLandmark landmark).run.run map =
      match (do
        require (map.missions.contains landmark.mission = true) (.landmarkMissionMissing landmark.id)
        require (map.index.contains landmark.id = false) (.landmarkExists landmark.id) : Except (Fault α) Unit) with
      | .error fault => (.error fault, map)
      | .ok _ => (.ok (), { map with
          landmarks := map.landmarks ++ [landmark]
          index := map.index.insert landmark.id map.landmarks.length }) := by
  simp only [Map.addLandmark, run_bind, run_get]
  cases map.missions.contains landmark.mission with
  | false => rfl
  | true =>
      cases map.index.contains landmark.id with
      | true => rfl
      | false => rfl

theorem perform_add_landmark (landmark : Landmark α) (map : Map α) :
    (Map.addLandmark landmark).perform map = (do
      require (map.missions.contains landmark.mission = true) (.landmarkMissionMissing landmark.id)
      require (map.index.contains landmark.id = false) (.landmarkExists landmark.id)
      return { map with
        landmarks := map.landmarks ++ [landmark]
        index := map.index.insert landmark.id map.landmarks.length }) := by
  rw [perform, run_add_landmark]
  by_cases home : map.missions.contains landmark.mission = true
  · simp only [require_bind _ _ _ home]
    cases (require (map.index.contains landmark.id = false) (.landmarkExists landmark.id) : Except (Fault α) Unit) with
    | error fault => rfl
    | ok _ => rfl
  · simp only [require_missed _ _ _ home]

theorem run_add_keypoint (vertex : VertexId) (frame : Nat) (keypoint : Vec2 α)
    (landmark : LandmarkId) (map : Map α) :
    (Map.addKeypoint vertex frame keypoint landmark).run.run map =
      match (map.vertex vertex >>= fun v => v.frame frame : Except (Fault α) (Frame α)) with
      | .error fault => (.error fault, map)
      | .ok f => (.ok f.keypoints.length, { map with
          vertices := map.vertices.modify vertex (·.addKeypoint frame keypoint landmark) }) := by
  simp only [Map.addKeypoint, run_bind, run_get, run_lift]
  cases map.vertex vertex with
  | error fault => rfl
  | ok v =>
      simp only [ok_bind]
      cases (v.frame frame : Except (Fault α) (Frame α)) with
      | error fault => rfl
      | ok f => rfl

theorem perform_add_keypoint (vertex : VertexId) (frame : Nat) (keypoint : Vec2 α)
    (landmark : LandmarkId) (map : Map α) :
    (Map.addKeypoint vertex frame keypoint landmark).perform map = (do
      let v ← map.vertex vertex
      let _ ← v.frame frame
      return { map with
        vertices := map.vertices.modify vertex (·.addKeypoint frame keypoint landmark) }) := by
  rw [perform, run_add_keypoint, ← bind_assoc]
  cases (map.vertex vertex >>= fun v => v.frame frame : Except (Fault α) (Frame α)) with
  | error fault => rfl
  | ok f => rfl

theorem perform_add_observation (landmark : LandmarkId) (vertex : VertexId) (frame : Nat)
    (keypoint : Vec2 α) (map : Map α) :
    (Map.addObservation landmark vertex frame keypoint).perform map = (do
      let i ← map.slot landmark
      let v ← map.vertex vertex
      let f ← v.frame frame
      return { map with
        vertices := map.vertices.modify vertex (·.addKeypoint frame keypoint landmark)
        landmarks := map.landmarks.modify i (·.observe ⟨vertex, frame, f.keypoints.length⟩) }) := by
  simp only [perform, Map.addObservation, run_bind, run_get, run_lift]
  cases map.slot landmark with
  | error fault => rfl
  | ok i =>
      simp only [run_add_keypoint, ok_bind]
      rw [← bind_assoc]
      cases (map.vertex vertex >>= fun v => v.frame frame : Except (Fault α) (Frame α)) with
      | error fault => rfl
      | ok f => rfl

theorem perform_update_landmark (id : LandmarkId) (change : Landmark α → Landmark α) (map : Map α) :
    (Map.updateLandmark id change).perform map = (do
      let i ← map.slot id
      return { map with landmarks := map.landmarks.modify i change }) := by
  simp only [perform, Map.updateLandmark, run_bind, run_get, run_lift]
  cases map.slot id with
  | error fault => rfl
  | ok i => rfl

theorem perform_set_pose (id : VertexId) (pose : Pose α) (map : Map α) :
    (Map.setPose id pose).perform map = (do
      let _ ← map.vertex id
      return { map with vertices := map.vertices.modify id fun v =>
        { v with state := { v.state with pose } } }) := by
  simp only [perform, Map.setPose, run_bind, run_get, run_lift]
  cases map.vertex id with
  | error fault => rfl
  | ok vertex => rfl

end LandmarkMap
