import LandmarkMap.Proofs.Map.GraphConsistency

set_option autoImplicit false

namespace LandmarkMap

variable {α : Type}

-- What a landmark is filed under.
def Landmark.address (l : Landmark α) : LandmarkId × MissionId := (l.id, l.mission)

theorem built_landmark_valid (l : Landmark α) (built : l.Built) : l.id.isValid = true := by
  induction built with
  | create id mission landmark made =>
      obtain ⟨valid, made⟩ := (require_bind_ok _ _ _ _).mp made
      cases (pure_ok _ _).mp made
      exact valid
  | place landmark position _ ih => exact ih
  | label landmark quality _ ih => exact ih
  | observe landmark observation _ ih => exact ih

theorem mapped_member {τ ρ : Type} (f : τ → ρ) (before after : List τ)
    (same : after.map f = before.map f) (item : τ) (member : item ∈ after) :
    ∃ old ∈ before, f old = f item := by
  have there : f item ∈ before.map f := same ▸ List.mem_map_of_mem member
  exact List.mem_map.mp there

theorem addressed_ids (before after : List (Landmark α))
    (same : after.map Landmark.address = before.map Landmark.address) :
    after.map (·.id) = before.map (·.id) := by
  have firsts := congrArg (List.map Prod.fst) same
  rwa [List.map_map, List.map_map] at firsts

theorem concat_found {τ : Type} (items : List τ) (last item : τ) (i : Nat) :
    (items ++ [last])[i]? = some item ↔
      items[i]? = some item ∨ (i = items.length ∧ last = item) := by
  rcases Nat.lt_trichotomy i items.length with inside | atEnd | outside
  · simp [List.getElem?_append_left inside, Nat.ne_of_lt inside]
  · simp [atEnd]
  · have nothing : (items ++ [last])[i]? = none :=
      List.getElem?_eq_none (by rw [List.length_append]; exact outside)
    rw [nothing, List.getElem?_eq_none (Nat.le_of_lt outside)]
    simp [Nat.ne_of_gt outside]

variable [Scalar α]

structure Map.Consistent (map : Map α) : Prop where
  graph : map.toPoseGraph.Consistent
  valid : ∀ l ∈ map.landmarks, l.id.isValid = true
  distinct : map.landmarkIds.Nodup
  indexed : ∀ id i, map.index.get? id = some i ↔ map.landmarkIds[i]? = some id
  entries : map.index.size = map.landmarks.length
  homes : ∀ l ∈ map.landmarks, map.missions.contains l.mission = true

-- The vertex that an operation adds to a mission.
def Operation.enters? (id : MissionId) : Operation α → Option VertexId
  | addVertex vertex _ => if vertex.mission = id then some vertex.id else none
  | _ => none

def Operation.insertionOrder (operations : List (Operation α)) (id : MissionId) : List VertexId :=
  operations.filterMap (enters? id)

theorem empty_consistent : (Map.empty : Map α).Consistent := by
  constructor
  · constructor
    · intro id v stored
      cases stored
    · intro id m stored
      cases stored
  · intro l member
    cases member
  · exact List.nodup_nil
  · intro id i
    constructor
    · intro stored
      cases stored
    · intro stored
      cases stored
  · rfl
  · intro l member
    cases member

-- Every operation but the one that adds a landmark leaves the index and all addresses alone, so that
-- only the graph is in question.
theorem same_addresses_consistent (before after : Map α) (consistent : before.Consistent)
    (graph : after.toPoseGraph.Consistent)
    (missions : ∀ id, before.missions.contains id = true → after.missions.contains id = true)
    (index : after.index = before.index)
    (addresses : after.landmarks.map Landmark.address = before.landmarks.map Landmark.address) :
    after.Consistent := by
  have ids : after.landmarkIds = before.landmarkIds := addressed_ids _ _ addresses
  constructor
  · exact graph
  · intro l member
    obtain ⟨old, there, same⟩ := mapped_member _ _ _ addresses l member
    have sameId : old.id = l.id := congrArg Prod.fst same
    exact sameId ▸ consistent.valid old there
  · exact ids ▸ consistent.distinct
  · rw [index, ids]
    exact consistent.indexed
  · have length := congrArg List.length addresses
    rw [List.length_map, List.length_map] at length
    rw [index, length, consistent.entries]
  · intro l member
    obtain ⟨old, there, same⟩ := mapped_member _ _ _ addresses l member
    have sameMission : old.mission = l.mission := congrArg Prod.snd same
    exact missions l.mission (sameMission ▸ consistent.homes old there)

theorem append_landmark_consistent (map : Map α) (l : Landmark α) (consistent : map.Consistent)
    (valid : l.id.isValid = true) (home : map.missions.contains l.mission = true)
    (absent : map.index.get? l.id = none) :
    Map.Consistent { map with
      landmarks := map.landmarks ++ [l]
      index := map.index.insert l.id map.landmarks.length } := by
  have ids : (map.landmarks ++ [l]).map (·.id) = map.landmarkIds ++ [l.id] := List.map_append
  have length : map.landmarkIds.length = map.landmarks.length := List.length_map _
  have fresh : l.id ∉ map.landmarkIds := fun member => by
    obtain ⟨i, found⟩ := List.mem_iff_getElem?.mp member
    cases absent.symm.trans ((consistent.indexed l.id i).mpr found)
  constructor
  · exact consistent.graph
  · intro m member
    rcases List.mem_append.mp member with old | new
    · exact consistent.valid m old
    · exact List.mem_singleton.mp new ▸ valid
  · rw [Map.landmarkIds, ids, ← List.concat_eq_append]
    exact consistent.distinct.concat fresh
  · intro id i
    rw [Map.landmarkIds, ids, concat_found, ← consistent.indexed, Table.get_insert, length]
    by_cases here : id = l.id
    · subst here
      simp [absent, eq_comm]
    · simp [here, Ne.symm here]
  · rw [Table.size_insert _ _ _ absent, consistent.entries, List.length_append]
    rfl
  · intro m member
    rcases List.mem_append.mp member with old | new
    · exact consistent.homes m old
    · exact List.mem_singleton.mp new ▸ home

theorem operation_keeps_consistent [Spectral α] (operation : Operation α) (before after : Map α)
    (consistent : before.Consistent) (done : operation.apply before = .ok after) :
    after.Consistent := by
  cases operation with
  | addMission id toGlobal rig =>
      obtain ⟨_, absent, rfl⟩ := (add_mission_ok _ _ _ _ _).mp done
      refine same_addresses_consistent before _ consistent
        (insert_mission_consistent _ id toGlobal rig consistent.graph absent) ?_ rfl rfl
      intro other there
      rw [Table.contains_insert, there, Bool.or_true]
  | addVertex vertex built =>
      obtain ⟨mission, home, fits, absent, rfl⟩ := (add_vertex_ok _ _ _ _).mp done
      obtain ⟨valid, aligned⟩ := built_vertex_sound vertex built
      refine same_addresses_consistent before _ consistent
        (insert_vertex_consistent _ vertex mission consistent.graph valid aligned home fits absent)
        ?_ rfl rfl
      intro other there
      rw [Table.contains_modify, there]
  | addLandmark landmark built =>
      obtain ⟨home, absent, rfl⟩ := (add_landmark_ok _ _ _ _).mp done
      exact append_landmark_consistent before landmark consistent
        (built_landmark_valid landmark built) home absent
  | addKeypoint vertex frame keypoint landmark =>
      obtain ⟨_, _, _, _, rfl⟩ := (add_keypoint_ok _ _ _ _ _ _).mp done
      exact same_addresses_consistent before _ consistent
        (add_keypoint_consistent _ vertex frame keypoint landmark consistent.graph)
        (fun _ there => there) rfl rfl
  | addObservation landmark vertex frame keypoint =>
      obtain ⟨i, _, f, _, _, _, _, rfl⟩ := (add_observation_ok _ _ _ _ _ _).mp done
      refine same_addresses_consistent before _ consistent
        (add_keypoint_consistent _ vertex frame keypoint landmark consistent.graph)
        (fun _ there => there) rfl ?_
      exact related_map _ _ _ _ (fun _ _ same => same)
        (modify_related (fun l m : Landmark α => m.address = l.address) _ _ i (fun _ => rfl)
          (fun _ => rfl))
  | setPose vertex pose =>
      obtain ⟨_, _, rfl⟩ := (set_pose_ok _ _ _ _).mp done
      exact same_addresses_consistent before _ consistent
        (modify_vertex_consistent _ vertex _ consistent.graph (fun _ => ⟨rfl, rfl, rfl⟩)
          fun _ aligned => aligned)
        (fun _ there => there) rfl rfl
  | pass change =>
      obtain ⟨graph, index, landmarks⟩ := pass_effect change before after done
      refine same_addresses_consistent before after consistent (graph ▸ consistent.graph) ?_ index
        (related_map _ _ _ _ ?_ landmarks)
      · intro id there
        rw [graph]
        exact there
      · intro l m changed
        obtain ⟨sameId, sameMission, _⟩ := changes_keep change _ l m changed
        exact Prod.ext sameId sameMission

theorem operation_extends_order [Spectral α] (operation : Operation α) (before after : Map α)
    (done : operation.apply before = .ok after) (id : MissionId) :
    after.verticesOf id = before.verticesOf id ++ (operation.enters? id).toList := by
  cases operation with
  | addMission added toGlobal rig =>
      obtain ⟨_, absent, rfl⟩ := (add_mission_ok _ _ _ _ _).mp done
      by_cases here : id = added
      · simp [PoseGraph.verticesOf, Operation.enters?, here, absent]
      · simp [PoseGraph.verticesOf, Operation.enters?, Table.get_insert, here]
  | addVertex vertex built =>
      obtain ⟨mission, home, _, _, rfl⟩ := (add_vertex_ok _ _ _ _).mp done
      by_cases here : vertex.mission = id
      · subst here
        simp [PoseGraph.verticesOf, Operation.enters?, home, Mission.addVertex]
      · simp [PoseGraph.verticesOf, Operation.enters?, Table.get_modify, here, Ne.symm here]
  | addLandmark landmark built =>
      obtain ⟨_, _, rfl⟩ := (add_landmark_ok _ _ _ _).mp done
      exact (List.append_nil _).symm
  | addKeypoint vertex frame keypoint landmark =>
      obtain ⟨_, _, _, _, rfl⟩ := (add_keypoint_ok _ _ _ _ _ _).mp done
      exact (List.append_nil _).symm
  | addObservation landmark vertex frame keypoint =>
      obtain ⟨_, _, _, _, _, _, _, rfl⟩ := (add_observation_ok _ _ _ _ _ _).mp done
      exact (List.append_nil _).symm
  | setPose vertex pose =>
      obtain ⟨_, _, rfl⟩ := (set_pose_ok _ _ _ _).mp done
      exact (List.append_nil _).symm
  | pass change =>
      have graph := (pass_effect change before after done).graph
      rw [graph]
      exact (List.append_nil _).symm

theorem run_consistent [Spectral α] (operations : List (Operation α)) (map : Map α)
    (done : Operation.run operations Map.empty = .ok map) : map.Consistent :=
  run_keeps (fun _ map => map.Consistent) empty_consistent
    (fun _ operation before after consistent => operation_keeps_consistent operation before after consistent)
    operations map done

theorem run_vertex_order [Spectral α] (operations : List (Operation α)) (map : Map α)
    (done : Operation.run operations Map.empty = .ok map) (id : MissionId) :
    map.verticesOf id = Operation.insertionOrder operations id := by
  refine run_keeps (fun history map => map.verticesOf id = Operation.insertionOrder history id) rfl ?_
    operations map done
  intro history operation before after sofar stepped
  rw [operation_extends_order operation before after stepped id, sofar]
  cases entering : operation.enters? id with
  | none => simp [Operation.insertionOrder, entering]
  | some vertex => simp [Operation.insertionOrder, entering]

theorem store_invariant [Spectral α] (operations : List (Operation α)) (map : Map α)
    (done : Operation.run operations Map.empty = .ok map) :
    map.Consistent ∧ ∀ id mission, map.missions.get? id = some mission →
      mission.vertices = Operation.insertionOrder operations id := by
  refine ⟨run_consistent operations map done, ?_⟩
  intro id mission found
  have order := run_vertex_order operations map done id
  rwa [PoseGraph.verticesOf, found] at order

theorem two_views_consistent :
    ∃ map : Map Float, Operation.run twoViews Map.empty = .ok map ∧ map.Consistent ∧
      map.verticesOf (Id.ofNat 1) = [Id.ofNat 2, Id.ofNat 3] := by
  refine ⟨_, rfl, ?_⟩
  obtain ⟨consistent, order⟩ := store_invariant twoViews _ rfl
  exact ⟨consistent, order (Id.ofNat 1) _ rfl⟩

end LandmarkMap
