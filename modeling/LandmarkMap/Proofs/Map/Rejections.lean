import LandmarkMap.Proofs.Map.GraphConsistency

set_option autoImplicit false

namespace LandmarkMap

variable {α : Type} [Scalar α]

inductive Insertion (α : Type) [Scalar α] where
  | mission (mission : Mission α)
  | vertex (vertex : Vertex α)
  | landmark (landmark : Landmark α)
  | observation (landmark : LandmarkId) (vertex : VertexId) (frame : Nat) (keypoint : Vec2 α)

namespace Insertion

def update : Insertion α → Update α Unit
  | mission m => Map.addMission m
  | vertex v => Map.addVertex v
  | landmark l => Map.addLandmark l
  | observation l v f k => do let _ ← Map.addObservation l v f k

-- What must be so of a map for it to take an insertion, and what is said of the first thing that is not.
def checks (map : Map α) : Insertion α → Except (Fault α) Unit
  | mission m => require (map.missions.contains m.id = false) (.missionExists m.id)
  | vertex v =>
      match map.missions.get? v.mission with
      | none => .error (.vertexMissionMissing v.id v.mission)
      | some home => do
          require (v.frames.length = home.rig.mounts.length) .frameCount
          require (map.vertices.contains v.id = false) (.vertexExists v.id)
  | landmark l => do
      require (map.missions.contains l.mission = true) (.landmarkMissionMissing l.id)
      require (map.index.contains l.id = false) (.landmarkExists l.id)
  | observation l v f _ => do
      let _ ← map.slot l
      let vertex ← map.vertex v
      let _ ← vertex.frame f

-- What an insertion that was refused for a reason leaves of a map. Of two reasons it learns from its own
-- write, which stays.
def leaves (map : Map α) : Insertion α → Fault α → Map α
  | mission m, .missionExists _ => { map with missions := map.missions.insert m.id m }
  | vertex v, .vertexExists _ => { map with
      missions := map.missions.modify v.mission (·.addVertex v.id)
      vertices := map.vertices.insert v.id v }
  | _, _ => map

end Insertion

open Update

-- A keypoint is written only after all of its checks.
theorem refused_observation (map after : Map α) (fault : Fault α) (l : LandmarkId) (v : VertexId) (f : Nat) (k : Vec2 α) :
    (Insertion.observation l v f k).update.run.run map = (.error fault, after) ↔
      (Insertion.observation l v f k).checks map = .error fault ∧ map = after := by
  simp only [Insertion.update, Map.addObservation, run_bind, run_get, run_lift, Insertion.checks]
  cases map.slot l with
  | error other => exact Prod.ext_iff
  | ok i =>
      simp only [run_add_keypoint, ok_bind]
      rw [← bind_assoc]
      cases (map.vertex v >>= fun vertex => vertex.frame f : Except (Fault α) (Frame α)) with
      | error other => exact Prod.ext_iff
      | ok frame =>
          constructor
          · intro refused
            cases refused
          · rintro ⟨refused, -⟩
            cases refused

-- A refused insertion leaves the map as it was, but for a mission or a vertex that exists already: these are
-- entered as if they were new, over what was there.
theorem refused_insertions (insertion : Insertion α) (map after : Map α) (fault : Fault α) :
    insertion.update.run.run map = (.error fault, after) ↔
      insertion.checks map = .error fault ∧ insertion.leaves map fault = after := by
  cases insertion with
  | mission m =>
      rw [Insertion.update, run_add_mission]
      refine Prod.ext_iff.trans (and_congr_right fun refused => ?_)
      obtain ⟨_, rfl⟩ := (require_error _ _ _).mp refused
      rfl
  | vertex v =>
      rw [Insertion.update, run_add_vertex, Insertion.checks]
      cases map.missions.get? v.mission with
      | none =>
          refine Prod.ext_iff.trans (and_congr_right fun refused => ?_)
          cases refused
          rfl
      | some home =>
          by_cases fits : v.frames.length = home.rig.mounts.length
          · simp only [if_pos fits, require_bind _ _ _ fits]
            refine Prod.ext_iff.trans (and_congr_right fun refused => ?_)
            obtain ⟨_, rfl⟩ := (require_error _ _ _).mp refused
            rfl
          · simp only [if_neg fits, require_missed _ _ _ fits]
            refine Prod.ext_iff.trans (and_congr_right fun refused => ?_)
            cases refused
            rfl
  | landmark l =>
      rw [Insertion.update, run_add_landmark, Insertion.checks]
      split
      · next other refused =>
          rw [refused]
          exact Prod.ext_iff
      · next taken =>
          rw [taken]
          constructor
          · intro refused
            cases refused
          · rintro ⟨refused, -⟩
            cases refused
  | observation l v f k => exact refused_observation map after fault l v f k

-- The mission of the vertex that was there, or the mission that the new one names, then lists a vertex once too
-- often.
theorem repeated_vertex_spoils (map : Map α) (v : Vertex α) (consistent : map.toPoseGraph.Consistent)
    (refused : (Insertion.vertex v).checks map = .error (.vertexExists v.id)) :
    ¬ ((Insertion.vertex v).leaves map (.vertexExists v.id)).toPoseGraph.Consistent := by
  intro spoiled
  obtain ⟨home, named, present⟩ : ∃ home, map.missions.get? v.mission = some home ∧
      map.vertices.contains v.id = true := by
    rw [Insertion.checks] at refused
    cases named : map.missions.get? v.mission with
    | none =>
        simp only [named] at refused
        cases refused
    | some home =>
        simp only [named] at refused
        by_cases fits : v.frames.length = home.rig.mounts.length
        · rw [require_bind _ _ _ fits, require_error, Bool.not_eq_false] at refused
          exact ⟨home, rfl, refused.1⟩
        · rw [require_missed _ _ _ fits] at refused
          cases refused
  obtain ⟨old, stored⟩ := (Table.contains_get _ _).mp present
  obtain ⟨mission, lives, _⟩ := (consistent.vertices v.id old stored).home
  have listed : v.id ∈ mission.vertices := ((consistent.missions _ mission lives).members v.id).mpr ⟨old, stored, rfl⟩
  by_cases same : old.mission = v.mission
  · cases named.symm.trans (same ▸ lives)
    have twice : (map.missions.modify v.mission (·.addVertex v.id)).get? v.mission = some (home.addVertex v.id) := by
      rw [Table.get_modify_self, named]
      rfl
    have distinct : (home.vertices ++ [v.id]).Nodup := (spoiled.missions _ _ twice).distinct
    exact (List.nodup_append.mp distinct).2.2 _ listed _ (List.mem_singleton_self _) rfl
  · have kept : (map.missions.modify v.mission (·.addVertex v.id)).get? old.mission = some mission :=
      (Table.get_modify_other _ same _).trans lives
    obtain ⟨other, found, there⟩ := ((spoiled.missions _ _ kept).members v.id).mp listed
    cases (Table.get_insert_self map.vertices v.id v).symm.trans found
    exact same there.symm

-- The vertices of the mission that was there are then in no mission's list.
theorem repeated_mission_spoils (map : Map α) (m old : Mission α) (consistent : map.toPoseGraph.Consistent)
    (fresh : m.vertices = []) (stored : map.missions.get? m.id = some old) (some : old.vertices ≠ []) :
    ¬ ((Insertion.mission m).leaves map (.missionExists m.id)).toPoseGraph.Consistent := by
  intro spoiled
  obtain ⟨first, listed⟩ := List.exists_mem_of_ne_nil _ some
  have member := ((consistent.missions _ old stored).members first).mp listed
  have lists := spoiled.missions m.id m (Table.get_insert_self map.missions m.id m)
  have forgotten := (lists.members first).mpr member
  rw [fresh] at forgotten
  cases forgotten

-- A second mission and a second vertex, each refused, after which the mission has forgotten its two vertices,
-- or has three.
theorem repeated_insertions_stay :
    ∃ map emptied doubled : Map Float, Operation.run twoViews Map.empty = .ok map ∧
      map.verticesOf (Id.ofNat 1) = [Id.ofNat 2, Id.ofNat 3] ∧
      (Insertion.mission ⟨Id.ofNat 1, Pose.identity, ⟨[]⟩, Id.invalid, []⟩).update.run.run map =
        (.error (.missionExists (Id.ofNat 1)), emptied) ∧
      emptied.verticesOf (Id.ofNat 1) = [] ∧
      (Insertion.vertex (restingVertex (Id.ofNat 3))).update.run.run map =
        (.error (.vertexExists (Id.ofNat 3)), doubled) ∧
      doubled.verticesOf (Id.ofNat 1) = [Id.ofNat 2, Id.ofNat 3, Id.ofNat 3] :=
  ⟨_, _, _, rfl, rfl, rfl, rfl, rfl, rfl⟩

end LandmarkMap
