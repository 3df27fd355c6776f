import Mathlib.Data.List.Nodup
import LandmarkMap.Proofs.Map.Runs

set_option autoImplicit false

namespace LandmarkMap

variable {α : Type}

def Vertex.Aligned (v : Vertex α) : Prop := ∀ f ∈ v.frames, f.landmarks.length = f.keypoints.length

theorem id_valid {kind : ElementKind} (id : Id kind) : id.isValid = true ↔ id ≠ Id.invalid := by
  rw [Id.isValid, bne_iff_ne]

theorem created_vertex (id : VertexId) (mission : MissionId) (time : Timestamp) (state : BodyState α)
    (frames : Nat) (vertex : Vertex α)
    (made : Vertex.create id mission time state frames = .ok vertex) :
    id.isValid = true ∧ ⟨id, mission, time, state, List.replicate frames Frame.empty⟩ = vertex := by
  obtain ⟨valid, made⟩ := (require_bind_ok _ _ _ _).mp made
  obtain ⟨_, _, made⟩ := (bind_ok _ _ _).mp made
  exact ⟨valid, (pure_ok _ _).mp made⟩

theorem add_keypoint_aligned (v : Vertex α) (frame : Nat) (keypoint : Vec2 α) (landmark : LandmarkId)
    (aligned : v.Aligned) : (v.addKeypoint frame keypoint landmark).Aligned := by
  intro f member
  obtain ⟨i, found⟩ := List.mem_iff_getElem?.mp member
  rw [Vertex.addKeypoint, List.getElem?_modify] at found
  obtain ⟨old, there, rfl⟩ := Option.map_eq_some_iff.mp found
  have same := aligned old (List.mem_of_getElem? there)
  by_cases here : frame = i
  · simp [here, Frame.add, same]
  · simpa [here] using same

theorem built_vertex_sound (v : Vertex α) (built : v.Built) : v.id.isValid = true ∧ v.Aligned := by
  induction built with
  | create id mission time state frames vertex made =>
      obtain ⟨valid, rfl⟩ := created_vertex id mission time state frames vertex made
      refine ⟨valid, ?_⟩
      intro f member
      rw [List.eq_of_mem_replicate member]
      rfl
  | addKeypoint vertex frame keypoint landmark _ ih =>
      exact ⟨ih.1, add_keypoint_aligned vertex frame keypoint landmark ih.2⟩
  | setState vertex state _ ih => exact ih

variable [Scalar α]

-- What is true of the vertex that is stored under an identifier.
structure PoseGraph.Hosts (g : PoseGraph α) (id : VertexId) (v : Vertex α) : Prop where
  key : v.id = id
  valid : id.isValid = true
  home : ∃ mission, g.missions.get? v.mission = some mission ∧
    v.frames.length = mission.rig.mounts.length
  aligned : v.Aligned

-- What is true of the mission that is stored under an identifier.
structure PoseGraph.Lists (g : PoseGraph α) (id : MissionId) (m : Mission α) : Prop where
  key : m.id = id
  distinct : m.vertices.Nodup
  members : ∀ v, v ∈ m.vertices ↔ ∃ vertex, g.vertices.get? v = some vertex ∧ vertex.mission = id
  root : m.root = m.vertices.head?.getD Id.invalid
  rootless : m.root = Id.invalid ↔ m.vertices = []

structure PoseGraph.Consistent (g : PoseGraph α) : Prop where
  vertices : ∀ id v, g.vertices.get? id = some v → g.Hosts id v
  missions : ∀ id m, g.missions.get? id = some m → g.Lists id m

-- The vertices of a mission, none if there is no such mission.
def PoseGraph.verticesOf (g : PoseGraph α) (id : MissionId) : List VertexId :=
  (g.missions.get? id).elim [] (·.vertices)

-- The graph: three ways to write it.

theorem insert_mission_consistent (g : PoseGraph α) (id : MissionId) (toGlobal : Pose α) (rig : Rig α)
    (consistent : g.Consistent) (absent : g.missions.get? id = none) :
    PoseGraph.Consistent
      { g with missions := g.missions.insert id ⟨id, toGlobal, rig, Id.invalid, []⟩ } := by
  have elsewhere : ∀ other m, g.missions.get? other = some m → other ≠ id := by
    rintro other m found rfl
    cases absent.symm.trans found
  constructor
  · intro key v stored
    obtain ⟨sameKey, valid, ⟨m, home, fits⟩, aligned⟩ := consistent.vertices key v stored
    exact ⟨sameKey, valid,
      ⟨m, (Table.get_insert_other _ (elsewhere _ _ home) _).trans home, fits⟩, aligned⟩
  · intro other m stored
    by_cases here : other = id
    · subst here
      cases (Table.get_insert_self _ _ _).symm.trans stored
      refine ⟨rfl, List.nodup_nil, ?_, rfl, Iff.intro (fun _ => rfl) (fun _ => rfl)⟩
      intro v
      constructor
      · intro member
        cases member
      · rintro ⟨vertex, found, rfl⟩
        obtain ⟨m, home, _⟩ := (consistent.vertices v vertex found).home
        exact absurd rfl (elsewhere _ _ home)
    · have old := consistent.missions other m ((Table.get_insert_other _ here _).symm.trans stored)
      exact ⟨old.key, old.distinct, old.members, old.root, old.rootless⟩

theorem add_vertex_root (g : PoseGraph α) (id : MissionId) (m : Mission α) (vertex : VertexId)
    (valid : vertex.isValid = true) (lists : g.Lists id m) :
    (m.addVertex vertex).root = (m.vertices ++ [vertex]).head?.getD Id.invalid ∧
      ((m.addVertex vertex).root = Id.invalid ↔ m.vertices ++ [vertex] = []) := by
  cases empty : m.vertices with
  | nil =>
      have rootless := lists.rootless.mpr empty
      have unset : m.root.isValid = false := by rw [rootless]; simp [Id.isValid]
      simpa [Mission.addVertex, unset] using (id_valid vertex).mp valid
  | cons first rest =>
      have rooted : m.root ≠ Id.invalid := fun none => by
        rw [lists.rootless.mp none] at empty
        cases empty
      have kept : (m.addVertex vertex).root = m.root := if_pos ((id_valid m.root).mpr rooted)
      rw [kept]
      exact ⟨by rw [lists.root, empty]; rfl, by simp [rooted]⟩

theorem add_vertex_rig (missions : Table MissionId (Mission α)) (home id : MissionId)
    (vertex : VertexId) (m : Mission α) (found : missions.get? id = some m) :
    ∃ n, (missions.modify home (·.addVertex vertex)).get? id = some n ∧ n.rig = m.rig := by
  by_cases here : id = home
  · exact ⟨m.addVertex vertex, by rw [Table.get_modify, if_pos here, found]; rfl, rfl⟩
  · exact ⟨m, by rw [Table.get_modify, if_neg here, found], rfl⟩

theorem home_lists_new_vertex (g : PoseGraph α) (missions : Table MissionId (Mission α))
    (vertex : Vertex α) (m : Mission α) (valid : vertex.id.isValid = true)
    (absent : g.vertices.get? vertex.id = none) (lists : g.Lists vertex.mission m) :
    PoseGraph.Lists ⟨missions, g.vertices.insert vertex.id vertex⟩ vertex.mission
      (m.addVertex vertex.id) := by
  have fresh : vertex.id ∉ m.vertices := fun member => by
    obtain ⟨other, found, _⟩ := (lists.members vertex.id).mp member
    cases absent.symm.trans found
  obtain ⟨root, rootless⟩ := add_vertex_root g _ m vertex.id valid lists
  refine ⟨lists.key, ?_, ?_, root, rootless⟩
  · change (m.vertices ++ [vertex.id]).Nodup
    rw [← List.concat_eq_append]
    exact lists.distinct.concat fresh
  · intro v
    change v ∈ m.vertices ++ [vertex.id] ↔ _
    rw [List.mem_append, List.mem_singleton, lists.members, Table.get_insert]
    by_cases new : v = vertex.id
    · simp [new]
    · simp [new]

theorem others_keep_lists (g : PoseGraph α) (missions : Table MissionId (Mission α))
    (vertex : Vertex α) (id : MissionId) (m : Mission α) (elsewhere : id ≠ vertex.mission)
    (absent : g.vertices.get? vertex.id = none) (lists : g.Lists id m) :
    PoseGraph.Lists ⟨missions, g.vertices.insert vertex.id vertex⟩ id m := by
  refine ⟨lists.key, lists.distinct, ?_, lists.root, lists.rootless⟩
  intro v
  rw [lists.members, Table.get_insert]
  by_cases new : v = vertex.id
  · subst new
    simp [absent, Ne.symm elsewhere]
  · simp [new]

theorem insert_vertex_consistent (g : PoseGraph α) (vertex : Vertex α) (mission : Mission α)
    (consistent : g.Consistent) (valid : vertex.id.isValid = true) (aligned : vertex.Aligned)
    (home : g.missions.get? vertex.mission = some mission)
    (fits : vertex.frames.length = mission.rig.mounts.length)
    (absent : g.vertices.get? vertex.id = none) :
    PoseGraph.Consistent
      { missions := g.missions.modify vertex.mission (·.addVertex vertex.id)
        vertices := g.vertices.insert vertex.id vertex } := by
  constructor
  · intro key v stored
    by_cases here : key = vertex.id
    · subst here
      cases (Table.get_insert_self _ _ _).symm.trans stored
      obtain ⟨n, found, same⟩ := add_vertex_rig g.missions vertex.mission _ vertex.id mission home
      exact ⟨rfl, valid, ⟨n, found, same ▸ fits⟩, aligned⟩
    · obtain ⟨sameKey, valid, ⟨m, oldHome, oldFits⟩, aligned⟩ :=
        consistent.vertices key v ((Table.get_insert_other _ here _).symm.trans stored)
      obtain ⟨n, found, same⟩ := add_vertex_rig g.missions vertex.mission _ vertex.id m oldHome
      exact ⟨sameKey, valid, ⟨n, found, same ▸ oldFits⟩, aligned⟩
  · intro id m stored
    by_cases here : id = vertex.mission
    · subst here
      rw [Table.get_modify_self, home] at stored
      cases stored
      exact home_lists_new_vertex g _ vertex mission valid absent
        (consistent.missions vertex.mission mission home)
    · exact others_keep_lists g _ vertex id m here absent
        (consistent.missions id m ((Table.get_modify_other _ here _).symm.trans stored))

-- A change of a vertex in its place, which leaves alone what the rest of the graph relies on.
theorem modify_vertex_consistent (g : PoseGraph α) (id : VertexId) (change : Vertex α → Vertex α)
    (consistent : g.Consistent)
    (same : ∀ v, (change v).id = v.id ∧ (change v).mission = v.mission ∧
      (change v).frames.length = v.frames.length)
    (aligned : ∀ v : Vertex α, v.Aligned → (change v).Aligned) :
    PoseGraph.Consistent { g with vertices := g.vertices.modify id change } := by
  have found : ∀ key v, (g.vertices.modify id change).get? key = some v →
      ∃ old, g.vertices.get? key = some old ∧ v.id = old.id ∧ v.mission = old.mission ∧
        v.frames.length = old.frames.length ∧ (old.Aligned → v.Aligned) := by
    intro key v stored
    by_cases here : key = id
    · rw [Table.get_modify, if_pos here] at stored
      obtain ⟨old, there, rfl⟩ := Option.map_eq_some_iff.mp stored
      exact ⟨old, there, (same old).1, (same old).2.1, (same old).2.2, aligned old⟩
    · rw [Table.get_modify, if_neg here] at stored
      exact ⟨v, stored, rfl, rfl, rfl, fun h => h⟩
  constructor
  · intro key v stored
    obtain ⟨old, there, sameId, sameMission, sameFrames, keepsAligned⟩ := found key v stored
    obtain ⟨sameKey, valid, ⟨m, home, fits⟩, wasAligned⟩ := consistent.vertices key old there
    exact ⟨sameId.trans sameKey, valid, ⟨m, sameMission ▸ home, sameFrames.trans fits⟩,
      keepsAligned wasAligned⟩
  · intro key m stored
    have old := consistent.missions key m stored
    refine ⟨old.key, old.distinct, ?_, old.root, old.rootless⟩
    intro v
    rw [old.members, Table.get_modify]
    by_cases here : v = id
    · subst here
      cases g.vertices.get? v with
      | none => simp
      | some vertex => simp [(same vertex).2.1]
    · rw [if_neg here]

theorem add_keypoint_consistent (g : PoseGraph α) (id : VertexId) (frame : Nat) (keypoint : Vec2 α)
    (landmark : LandmarkId) (consistent : g.Consistent) :
    PoseGraph.Consistent
      { g with vertices := g.vertices.modify id (·.addKeypoint frame keypoint landmark) } :=
  modify_vertex_consistent g id _ consistent (fun _ => ⟨rfl, rfl, List.length_modify _ _ _⟩)
    (fun v aligned => add_keypoint_aligned v frame keypoint landmark aligned)

end LandmarkMap
