import LandmarkMap.Proofs.Map.Identifiers
import LandmarkMap.Scene.Synthetic

set_option autoImplicit false

namespace LandmarkMap

variable {α : Type} [Scalar α]

theorem draft_update {β : Type} (d : Scene.Draft α) (operation : Update α β) :
    d.update operation = (fun map => { d with map }) <$> operation.perform d.map := by
  rw [Scene.Draft.update, Update.perform]
  cases operation.run.run d.map with
  | mk outcome map =>
      cases outcome with
      | ok value => rfl
      | error fault => rfl

namespace Scene

variable (c : SceneConfig α)

def home : MissionId := Id.ofNat 0

theorem home_valid : home.isValid = true := numbered_valid 0 zero_nameable

-- The cameras of the rig, equal but for the name and the place.
def mounts (camera : Pinhole α) : List (MountedCamera α) :=
  (List.range c.cameras).map fun i => ⟨camera.named ("cam" ++ toString i), mountPose i c.baseline⟩

theorem rig_outcome :
    rig c =
      if c.cameras * 56 ≤ Word.listBytes then
        match Pinhole.ofParameters? c.camera with
        | .error cause => .error (.error cause)
        | .ok camera => .ok ⟨mounts c camera⟩
      else .error (.fault .listTooLong) := by
  rw [rig]
  by_cases room : c.cameras * 56 ≤ Word.listBytes
  · have names : (Word.reserve c.cameras 16 : Except (Fault α) Unit) = .ok () := (require_ok _ _ _).mpr (by omega)
    have poses : (Word.reserve c.cameras 56 : Except (Fault α) Unit) = .ok () := (require_ok _ _ _).mpr room
    rw [if_pos room, names, poses]
    cases Pinhole.ofParameters? c.camera with
    | error cause => rfl
    | ok camera =>
        have parts : (Rig.ofParts ((List.range c.cameras).map fun i => mountPose i c.baseline)
            ((List.range c.cameras).map fun i => camera.named ("cam" ++ toString i)) : Except (Fault α) (Rig α)) =
            .ok ⟨mounts c camera⟩ := by
          rw [Rig.ofParts, require_bind _ _ _ (by rw [List.length_map, List.length_map]), mounts, List.zip_map', List.map_map]
          rfl
        change ((Rig.ofParts _ _ : Except (Fault α) (Rig α)).mapError Failure.fault : Except (Failure α) (Rig α)) = _
        rw [parts]
        rfl
  · have poses : (Word.reserve c.cameras 56 : Except (Fault α) Unit) = .error .listTooLong := if_neg room
    rw [if_neg room, poses, Word.reserve, require]
    split_ifs <;> rfl

theorem rig_ok (r : Rig α) :
    rig c = .ok r ↔ c.cameras * 56 ≤ Word.listBytes ∧
      ∃ camera, Pinhole.ofParameters? c.camera = .ok camera ∧ ⟨mounts c camera⟩ = r := by
  rw [rig_outcome]
  by_cases room : c.cameras * 56 ≤ Word.listBytes
  · rw [if_pos room]
    cases Pinhole.ofParameters? c.camera with
    | error cause => simp
    | ok camera => simp [room]
  · simp [room]

theorem rig_length (r : Rig α) (made : rig c = .ok r) : r.mounts.length = c.cameras := by
  obtain ⟨_, camera, _, rfl⟩ := (rig_ok c r).mp made
  rw [mounts, List.length_map, List.length_range]

def bodyState (i : Nat) : BodyState α := { BodyState.atPose (bodyPose c i) with velocity := ⟨c.spacing / c.period, 0, 0⟩ }

-- The vertex `i` before anything is observed from it.
def bareVertex (i : Nat) : Vertex α :=
  ⟨Id.ofNat i, home, ⟨Scalar.toInt64 (Scalar.ofNat i * c.period * 1e9)⟩, bodyState c i, List.replicate c.cameras Frame.empty⟩

theorem vertex_outcome (i : Nat) (named : Nameable i) :
    vertex c home i = if c.cameras * 48 ≤ Word.listBytes then .ok (bareVertex c i) else .error .listTooLong := by
  rw [vertex, Vertex.create, require_bind _ _ _ (numbered_valid i named), Word.reserve, require]
  by_cases room : c.cameras * 48 ≤ Word.listBytes
  · rw [if_pos room, if_pos room]
    rfl
  · rw [if_neg room, if_neg room]
    rfl

-- What stays of a vertex whatever is observed from it.
structure Stands (i : Nat) (v : Vertex α) : Prop where
  id : v.id = Id.ofNat i
  mission : v.mission = home
  time : v.time = ⟨Scalar.toInt64 (Scalar.ofNat i * c.period * 1e9)⟩
  state : v.state = bodyState c i
  frames : v.frames.length = c.cameras
  aligned : v.Aligned

theorem bare_vertex_stands (i : Nat) : Stands c i (bareVertex c i) := by
  refine ⟨rfl, rfl, rfl, rfl, List.length_replicate, ?_⟩
  intro f member
  rw [List.eq_of_mem_replicate member]
  rfl

theorem add_keypoint_stands (i : Nat) (v : Vertex α) (stands : Stands c i v) (frame : Nat) (keypoint : Vec2 α)
    (landmark : LandmarkId) : Stands c i (v.addKeypoint frame keypoint landmark) := by
  refine ⟨stands.id, stands.mission, stands.time, stands.state, ?_, add_keypoint_aligned v frame keypoint landmark stands.aligned⟩
  rw [Vertex.addKeypoint, List.length_modify, stands.frames]

-- The mission once the vertices `is` were added.
def missionWith (rig : Rig α) (is : List Nat) : Mission α :=
  ⟨home, Pose.identity, rig, (is.map Id.ofNat).head?.getD Id.invalid, is.map Id.ofNat⟩

-- The graph holds one mission and the vertices `is`, where they belong.
structure Grounded (rig : Rig α) (is : List Nat) (g : PoseGraph α) : Prop where
  alone : ∀ id, g.missions.contains id = true ↔ id = home
  mission : g.missions.get? home = some (missionWith rig is)
  listed : ∀ id, g.vertices.contains id = true ↔ id ∈ is.map Id.ofNat
  stands : ∀ i ∈ is, ∃ v, g.vertices.get? (Id.ofNat i) = some v ∧ Stands c i v

theorem mission_extended (rig : Rig α) (is : List Nat) (i : Nat) (named : ∀ j ∈ is, Nameable j) :
    (missionWith rig is).addVertex (Id.ofNat i) = missionWith rig (is ++ [i]) := by
  cases is with
  | nil => rfl
  | cons first rest =>
      have valid : (Id.ofNat first : VertexId).isValid = true := numbered_valid first (named first List.mem_cons_self)
      have root : (if (Id.ofNat first : VertexId).isValid then (Id.ofNat first : VertexId) else Id.ofNat i) = Id.ofNat first :=
        if_pos valid
      simp only [missionWith, Mission.addVertex, List.map_append, List.map_cons, List.map_nil, List.head?_cons,
        Option.getD_some, List.cons_append, root]

-- One more vertex. Nothing that the graph holds is in its way.
theorem vertex_added (rig : Rig α) (is : List Nat) (map : Map α) (grounded : Grounded c rig is map.toPoseGraph)
    (rigged : rig.mounts.length = c.cameras) (i : Nat) (new : i ∉ is) (named : Nameable i) (all : ∀ j ∈ is, Nameable j) :
    ∃ after, (Map.addVertex (bareVertex c i)).perform map = .ok after ∧ Grounded c rig (is ++ [i]) after.toPoseGraph ∧
      after.landmarks = map.landmarks ∧ after.index = map.index := by
  have absent : map.vertices.contains (bareVertex c i).id = false := by
    rw [Bool.eq_false_iff, ne_eq, grounded.listed, bareVertex, numbered_member i is named all]
    exact new
  have fits : (bareVertex c i).frames.length = (missionWith rig is).rig.mounts.length :=
    List.length_replicate.trans rigged.symm
  have stored : map.missions.get? (bareVertex c i).mission = some (missionWith rig is) := grounded.mission
  rw [perform_add_vertex, stored]
  dsimp only
  rw [require_bind _ _ _ fits, require_bind _ _ _ absent]
  refine ⟨_, rfl, ⟨fun id => ?_, ?_, fun id => ?_, fun j member => ?_⟩, rfl, rfl⟩
  · rw [Table.contains_modify]
    exact grounded.alone id
  · change (map.missions.modify home (·.addVertex (Id.ofNat i))).get? home = _
    rw [Table.get_modify_self, grounded.mission, Option.map_some, mission_extended rig is i all]
  · rw [Table.contains_insert, Bool.or_eq_true, decide_eq_true_eq, grounded.listed, List.map_append, List.mem_append,
      List.map_cons, List.map_nil, List.mem_singleton, or_comm]
    rfl
  · rw [Table.get_insert]
    rcases List.mem_append.mp member with old | last
    · have apart : (Id.ofNat j : VertexId) ≠ (bareVertex c i).id := fun same =>
        new (numbered_apart j i (all j old) named same ▸ old)
      rw [if_neg apart]
      exact grounded.stands j old
    · cases List.mem_singleton.mp last
      exact ⟨bareVertex c i, if_pos rfl, bare_vertex_stands c i⟩

-- A scene whose vertices are placed, before there is any landmark.
structure Cleared (rig : Rig α) (is : List Nat) (map : Map α) : Prop where
  grounded : Grounded c rig is map.toPoseGraph
  landmarks : map.landmarks = []
  index : map.index = Table.empty

theorem mission_placed (rig : Rig α) (mission : Mission α) (made : mission = missionWith rig []) :
    ∃ d : Draft α, Draft.update ⟨Map.empty, 0⟩ (Map.addMission mission) = .ok d ∧ Cleared c rig [] d.map := by
  subst made
  have absent : (Map.empty : Map α).missions.contains (missionWith rig []).id = false := rfl
  rw [draft_update, perform_add_mission, require_bind _ _ _ absent]
  refine ⟨_, rfl, ⟨fun id => ?_, Table.get_insert_self _ _ _, fun id => ?_, fun i member => by cases member⟩, rfl, rfl⟩
  · change ((Map.empty : Map α).missions.insert home (missionWith rig [])).contains id = true ↔ _
    rw [Table.contains_insert, Bool.or_eq_true, decide_eq_true_eq]
    exact or_iff_left_of_imp fun there => by cases there
  · constructor
    · intro there
      cases there
    · intro member
      cases member

omit [Scalar α] in
theorem vertices_nameable (room : c.vertices * 64 ≤ Word.listBytes) (i : Nat) (inside : i < c.vertices) : Nameable i := by
  rw [Word.listBytes] at room
  rw [Nameable, UInt64.size]
  omega

theorem vertices_placed (rig : Rig α) (rigged : rig.mounts.length = c.cameras) (d : Draft α) (cleared : Cleared c rig [] d.map)
    (cameras : c.cameras * 48 ≤ Word.listBytes) (vertices : c.vertices * 64 ≤ Word.listBytes) :
    ∃ after, addVertices c home d = .ok after ∧ Cleared c rig (List.range c.vertices) after.map := by
  have named := vertices_nameable c vertices
  rw [addVertices, Word.reserve, require_bind _ _ _ vertices]
  refine fold_follows _ (fun is d => Cleared c rig is d.map) _ ?_ d cleared
  intro is i before upTo ⟨grounded, landmarks, index⟩
  have member : ∀ j ∈ is ++ [i], Nameable j := fun j there => named j (List.mem_range.mp (upTo.subset there))
  have new : i ∉ is := fun there =>
    List.disjoint_of_nodup_append (List.nodup_range.sublist upTo.sublist) there List.mem_cons_self
  obtain ⟨after, added, extended, sameLandmarks, sameIndex⟩ := vertex_added c rig is before.map grounded rigged i new
    (member i (List.mem_append_right _ List.mem_cons_self)) fun j there => member j (List.mem_append_left _ there)
  refine ⟨{ before with map := after }, ?_, extended, sameLandmarks.trans landmarks, sameIndex.trans index⟩
  rw [vertex_outcome c i (member i (List.mem_append_right _ List.mem_cons_self)), if_pos cameras, ok_bind, draft_update, added]
  rfl

end Scene

end LandmarkMap
