import LandmarkMap.Cloud
import LandmarkMap.Proofs.Map.ObservationGraph

set_option autoImplicit false

namespace LandmarkMap

variable {α : Type} [Scalar α]

theorem require_missions_faults (map : Map α) (ids : List MissionId) :
    Faults (map.requireMissions ids) ↔ ∃ id ∈ ids, map.missions.contains id = false := by
  induction ids with
  | nil =>
      constructor
      · intro broken
        exact absurd broken (ok_never_faults ())
      · rintro ⟨_, member, _⟩
        cases member
  | cons id rest ih =>
      rw [Map.requireMissions, bind_faults, require_faults, ih, List.exists_mem_cons_iff]
      cases there : map.missions.contains id with
      | false => simp
      | true => simp [require]

theorem change_selected_faults (map : Map α) (p : Parallelism) (selected : Landmark α → Bool)
    (change : Landmark α → Except (Fault α) (Landmark α)) :
    Faults (map.changeSelected p selected change) ↔
      ∃ l ∈ map.landmarks, selected l = true ∧ Faults (change l) := by
  rw [Map.changeSelected, map_batches_pointwise, bind_faults, map_m_faults]
  constructor
  · rintro (⟨l, member, broken⟩ | ⟨_, _, later⟩)
    · cases chosen : selected l with
      | true => exact ⟨l, member, chosen, by simpa only [chosen, if_true] using broken⟩
      | false =>
          rw [chosen] at broken
          exact absurd broken (ok_never_faults l)
    · exact absurd later (ok_never_faults _)
  · rintro ⟨l, member, chosen, broken⟩
    exact .inl ⟨l, member, by simpa only [chosen, if_true] using broken⟩

-- All that a pass looks up for one observation.
structure Lookups (α : Type) [Scalar α] where
  vertex : Vertex α
  mission : Mission α
  frame : Frame α
  keypoint : Vec2 α
  mount : MountedCamera α

structure PoseGraph.Resolves (g : PoseGraph α) (o : Observation) (found : Lookups α) : Prop where
  vertex : g.vertex o.vertex = .ok found.vertex
  mission : g.mission found.vertex.mission = .ok found.mission
  frame : found.vertex.frame o.frame = (.ok found.frame : Except (Fault α) (Frame α))
  keypoint : fetch found.frame.keypoints o.keypoint = (.ok found.keypoint : Except (Fault α) (Vec2 α))
  mount : found.mission.rig.mount o.frame = .ok found.mount

def PoseGraph.HasKeypoint (g : PoseGraph α) (o : Observation) : Prop :=
  ∃ v f, g.vertices.get? o.vertex = some v ∧ v.frames[o.frame]? = some f ∧ o.keypoint < f.keypoints.length

-- As many cameras as frames, so that each frame has one.
theorem frame_camera (g : PoseGraph α) (consistent : g.Consistent) (id : VertexId) (v : Vertex α)
    (stored : g.vertices.get? id = some v) (frame : Nat) (f : Frame α) (framed : v.frames[frame]? = some f) :
    ∃ m mount, g.mission v.mission = .ok m ∧ m.rig.mount frame = .ok mount := by
  obtain ⟨m, home, fits⟩ := (consistent.vertices id v stored).home
  obtain ⟨frames, _⟩ := List.getElem?_eq_some_iff.mp framed
  have mounted : frame < m.rig.mounts.length := fits ▸ frames
  exact ⟨m, m.rig.mounts[frame], (mission_ok _ _ _).mpr home, (fetch_ok _ _ _).mpr (List.getElem?_eq_getElem mounted)⟩

-- The vertex lies in its own mission, not in that of the landmark, and brings the camera along.
theorem keypoint_resolves (g : PoseGraph α) (consistent : g.Consistent) (o : Observation) (there : g.HasKeypoint o) :
    ∃ found, g.Resolves o found := by
  obtain ⟨v, f, stored, framed, inside⟩ := there
  obtain ⟨m, mount, home, mounted⟩ := frame_camera g consistent o.vertex v stored o.frame f framed
  exact ⟨⟨v, m, f, f.keypoints[o.keypoint], mount⟩, (vertex_ok _ _ _).mpr stored, home, (frame_ok _ _ _).mpr framed,
    (fetch_ok _ _ _).mpr (List.getElem?_eq_getElem inside), mounted⟩

theorem observed_keypoint (map : Map α) (consistent : map.Consistent) (linked : map.Linked) (l : Landmark α)
    (member : l ∈ map.landmarks) (o : Observation) (observed : o ∈ l.observations) : map.HasKeypoint o := by
  obtain ⟨v, f, stored, framed, inside, _⟩ :=
    shown_observation map consistent o l.id (linked.seen l member o observed)
  exact ⟨v, f, stored, framed, inside⟩

theorem observation_resolves (map : Map α) (consistent : map.Consistent) (linked : map.Linked)
    (l : Landmark α) (member : l ∈ map.landmarks) (o : Observation) (observed : o ∈ l.observations) :
    ∃ found, map.toPoseGraph.Resolves o found :=
  keypoint_resolves map.toPoseGraph consistent.graph o (observed_keypoint map consistent linked l member o observed)

theorem camera_located (g : PoseGraph α) (id : VertexId) (frame : Nat) (v : Vertex α) (m : Mission α)
    (mount : MountedCamera α) (stored : g.vertex id = .ok v) (home : g.mission v.mission = .ok m)
    (mounted : m.rig.mount frame = .ok mount) :
    g.cameraToGlobal id frame = .ok (m.toGlobal * v.state.pose * mount.fromBody.inverse) := by
  have body : g.bodyToGlobal id = .ok (m.toGlobal * v.state.pose) := by
    rw [PoseGraph.bodyToGlobal, stored, ok_bind, PoseGraph.missionToGlobal, home]
    rfl
  rw [PoseGraph.cameraToGlobal, stored, ok_bind, home, ok_bind, mounted, ok_bind, body]
  rfl

theorem resolved_camera (g : PoseGraph α) (o : Observation) (found : Lookups α)
    (resolves : g.Resolves o found) :
    g.cameraToGlobal o.vertex o.frame =
      .ok (found.mission.toGlobal * found.vertex.state.pose * found.mount.fromBody.inverse) :=
  camera_located g o.vertex o.frame _ _ _ resolves.vertex resolves.mission resolves.mount

theorem resolved_ray (g : PoseGraph α) (o : Observation) (found : Lookups α)
    (resolves : g.Resolves o found) (id : LandmarkId) (p : Vec3 α) :
    ∃ ray, QualityMetrics.rayOf g id p o = .ok ray := by
  have there : g.vertices.contains o.vertex = true :=
    (Table.contains_get _ _).mpr ⟨found.vertex, (vertex_ok _ _ _).mp resolves.vertex⟩
  rw [QualityMetrics.rayOf, require_bind _ _ _ there, resolved_camera g o found resolves]
  exact ⟨_, rfl⟩

-- The line of sight that the lookups give, none if the keypoint has no ray.
def Lookups.sight? (found : Lookups α) : Option (Sight α) :=
  (found.mount.camera.backProject? found.keypoint).map fun ray =>
    let camera := found.mission.toGlobal * found.vertex.state.pose * found.mount.fromBody.inverse
    ⟨camera.rotation.rotate ray, camera.position⟩

theorem resolved_sight (g : PoseGraph α) (o : Observation) (found : Lookups α)
    (resolves : g.Resolves o found) : sightOf? g o = .ok found.sight? := by
  rw [sightOf?, resolves.vertex, ok_bind, resolves.mission, ok_bind, resolves.frame, ok_bind,
    resolves.keypoint, ok_bind, resolves.mount, ok_bind, Lookups.sight?]
  cases found.mount.camera.backProject? found.keypoint with
  | none => rfl
  | some ray =>
      rw [resolved_camera g o found resolves]
      rfl

-- Both lists grow together or not at all, so that a keypoint without a ray leaves them aligned.
theorem sightings_aligned (g : PoseGraph α) (l : Landmark α)
    (resolves : ∀ o ∈ l.observations, ∃ found, g.Resolves o found) :
    ∃ sightings, sightingsOf g l = .ok sightings ∧
      sightings.bearings.length = sightings.centers.length := by
  refine fold_reaches _ (fun s : Sightings α => s.bearings.length = s.centers.length) l.observations
    ?_ ⟨[], []⟩ rfl
  intro s aligned o observed
  obtain ⟨found, resolved⟩ := resolves o observed
  rw [resolved_sight g o found resolved, ok_bind]
  cases found.sight? with
  | none => exact ⟨s, rfl, aligned⟩
  | some sight => exact ⟨s.add sight, rfl, by simp [Sightings.add, aligned]⟩

theorem landmark_home (map : Map α) (consistent : map.Consistent) (l : Landmark α)
    (member : l ∈ map.landmarks) : ∃ pose, map.missionToGlobal l.mission = .ok pose := by
  obtain ⟨m, home⟩ := (Table.contains_get _ _).mp (consistent.homes l member)
  rw [PoseGraph.missionToGlobal, (mission_ok _ _ _).mpr home]
  exact ⟨_, rfl⟩

theorem retriangulate_never_faults [Spectral α] (map : Map α) (consistent : map.Consistent)
    (linked : map.Linked) (l : Landmark α) (member : l ∈ map.landmarks) :
    ¬ Faults (retriangulate map.toPoseGraph l) := by
  obtain ⟨sightings, collected, aligned⟩ := sightings_aligned map.toPoseGraph l
    fun o observed => observation_resolves map consistent linked l member o observed
  obtain ⟨pose, home⟩ := landmark_home map consistent l member
  rw [retriangulate, collected, ok_bind, Triangulation.linear, require_bind _ _ _ aligned, pure_bind]
  cases Triangulation.ofSights (sightings.bearings.zipWith Sight.mk sightings.centers) with
  | successful p =>
      rw [home]
      exact ok_never_faults _
  | tooFewMeasurements => exact ok_never_faults _
  | unobservable => exact ok_never_faults _

theorem global_position_ok (g : PoseGraph α) (l : Landmark α) (q : Vec3 α) :
    g.landmarkInGlobal l = .ok q ↔
      ∃ p base, l.position = some p ∧ g.missionToGlobal l.mission = .ok base ∧ base.apply p = q := by
  rw [PoseGraph.landmarkInGlobal]
  cases l.position with
  | none => simp
  | some p =>
      simp only [bind_ok, pure_ok, Option.some.injEq]
      constructor
      · rintro ⟨base, home, same⟩
        exact ⟨p, base, rfl, home, same⟩
      · rintro ⟨_, base, rfl, home, same⟩
        exact ⟨base, home, same⟩

theorem landmark_in_global_faults (map : Map α) (consistent : map.Consistent) (l : Landmark α)
    (member : l ∈ map.landmarks) :
    Faults (map.landmarkInGlobal l) ↔ l.isTriangulated = false := by
  obtain ⟨pose, home⟩ := landmark_home map consistent l member
  rw [PoseGraph.landmarkInGlobal, Landmark.isTriangulated, home]
  cases l.position with
  | none => exact ⟨fun _ => rfl, fun _ => error_faults _⟩
  | some p => exact ⟨fun broken => absurd broken (ok_never_faults _), fun untriangulated => by cases untriangulated⟩

-- Of all that evaluation asks for, only the position can be missing.
theorem evaluate_faults (map : Map α) (consistent : map.Consistent) (linked : map.Linked)
    (c : QualityConfig α) (l : Landmark α) (member : l ∈ map.landmarks) :
    Faults (evaluateQuality map.toPoseGraph c l) ↔ l.isTriangulated = false := by
  cases placed : l.isTriangulated with
  | false =>
      refine ⟨fun _ => rfl, fun _ => ?_⟩
      rw [evaluateQuality, QualityMetrics.compute, require_bind _ _ _ (consistent.valid l member), placed]
      exact error_faults _
  | true =>
      refine ⟨fun broken => ?_, fun untriangulated => by cases untriangulated⟩
      obtain ⟨p, located⟩ := faultless_has_value (map.landmarkInGlobal l) fun broken => by
        rw [landmark_in_global_faults map consistent l member, placed] at broken
        cases broken
      obtain ⟨rays, collected⟩ := faultless_has_value
        (l.observations.mapM fun o => QualityMetrics.rayOf map.toPoseGraph l.id p o) fun broken => by
          obtain ⟨o, observed, broken⟩ := (map_m_faults _ _).mp broken
          obtain ⟨found, resolved⟩ := observation_resolves map consistent linked l member o observed
          obtain ⟨ray, traced⟩ := resolved_ray map.toPoseGraph o found resolved l.id p
          rw [traced] at broken
          exact ok_never_faults ray broken
      rw [evaluateQuality, QualityMetrics.compute, require_bind _ _ _ (consistent.valid l member),
        require_bind _ _ _ placed, located, ok_bind, collected] at broken
      exact absurd broken (ok_never_faults _)

theorem evaluate_missions_faults (map : Map α) (consistent : map.Consistent) (linked : map.Linked)
    (c : QualityConfig α) (p : Parallelism) (ids : List MissionId) :
    Faults (map.evaluateMissions c p ids) ↔
      (∃ id ∈ ids, map.missions.contains id = false) ∨
        ∃ l ∈ map.landmarks, l.mission ∈ ids ∧ l.isTriangulated = false := by
  have labelling : ∀ l ∈ map.landmarks, (Faults (do
      return l.label (← evaluateQuality map.toPoseGraph c l) : Except (Fault α) (Landmark α)) ↔
        l.isTriangulated = false) := fun l member => by
    rw [← evaluate_faults map consistent linked c l member, ← map_faults (l.label ·), map_eq_pure_bind]
  rw [Map.evaluateMissions, bind_faults, require_missions_faults]
  constructor
  · rintro (absent | ⟨_, _, later⟩)
    · exact .inl absent
    · rcases (bind_faults _ _).mp later with broken | ⟨_, _, done⟩
      · obtain ⟨l, member, chosen, broken⟩ := (change_selected_faults _ _ _ _).mp broken
        exact .inr ⟨l, member, List.contains_iff_mem.mp chosen, (labelling l member).mp broken⟩
      · exact absurd done (ok_never_faults _)
  · rintro (absent | ⟨l, member, chosen, untriangulated⟩)
    · exact .inl absent
    · cases allowed : map.requireMissions ids with
      | error fault => exact .inl ((require_missions_faults map ids).mp ⟨fault, allowed⟩)
      | ok _ =>
          refine .inr ⟨(), rfl, (bind_faults _ _).mpr (.inl ((change_selected_faults _ _ _ _).mpr ?_))⟩
          exact ⟨l, member, List.contains_iff_mem.mpr chosen, (labelling l member).mpr untriangulated⟩

theorem retriangulate_selected_never_faults [Spectral α] (map : Map α) (consistent : map.Consistent)
    (linked : map.Linked) (p : Parallelism) (selected : Landmark α → Bool) :
    ¬ Faults (map.retriangulateSelected p selected) := by
  rw [Map.retriangulateSelected, map_batches_pointwise, bind_faults, map_m_faults]
  rintro (⟨l, member, broken⟩ | ⟨_, _, later⟩)
  · cases chosen : selected l with
    | false =>
        rw [chosen] at broken
        exact ok_never_faults _ broken
    | true =>
        rw [chosen, if_pos rfl] at broken
        exact retriangulate_never_faults map consistent linked l member ((map_faults _ _).mp broken)
  · exact ok_never_faults _ later

theorem retriangulate_missions_faults [Spectral α] (map : Map α) (consistent : map.Consistent)
    (linked : map.Linked) (p : Parallelism) (ids : List MissionId) :
    Faults (map.retriangulateMissions p ids) ↔ ∃ id ∈ ids, map.missions.contains id = false := by
  rw [Map.retriangulateMissions, bind_faults, require_missions_faults]
  constructor
  · rintro (absent | ⟨_, _, later⟩)
    · exact absent
    · exact absurd later (retriangulate_selected_never_faults map consistent linked p _)
  · exact .inl

theorem retriangulate_vertex_faults [Spectral α] (map : Map α) (consistent : map.Consistent)
    (linked : map.Linked) (p : Parallelism) (id : VertexId) :
    Faults (map.retriangulateVertex p id) ↔ map.vertices.contains id = false := by
  rw [Map.retriangulateVertex, bind_faults, Table.contains_none, PoseGraph.vertex]
  cases map.vertices.get? id with
  | none => exact ⟨fun _ => rfl, fun _ => .inl (error_faults _)⟩
  | some v =>
      constructor
      · rintro (broken | ⟨_, _, later⟩)
        · exact absurd broken (ok_never_faults v)
        · exact absurd later (retriangulate_selected_never_faults map consistent linked p _)
      · intro absent
        cases absent

omit [Scalar α] in
theorem room_for_landmarks (landmarks : Nat) :
    Cloud.withRoom (min landmarks Landmark.most) = (.ok Cloud.empty : Except (Fault α) (Cloud α)) := by
  have counted : 3 * min landmarks Landmark.most < UInt64.size := by
    rw [Landmark.most, Word.listBytes, UInt64.size]
    omega
  have fits : 3 * min landmarks Landmark.most * 8 ≤ Word.listBytes := by
    rw [Landmark.most, Word.listBytes]
    omega
  rw [Cloud.withRoom, Word.mul, if_pos counted]
  exact (require_bind_ok _ _ _ _).mpr ⟨fits, rfl⟩

theorem cloud_folds (map : Map α) (onlyGood : Bool) :
    map.cloud onlyGood = (map.landmarks.filter fun l => l.isTriangulated && (!onlyGood || decide (l.quality = .good))).foldlM
      (fun c l => map.pushLandmark c l) Cloud.empty := by
  rw [Map.cloud, room_for_landmarks]
  rfl

theorem cloud_never_faults (map : Map α) (consistent : map.Consistent) (onlyGood : Bool) :
    ¬ Faults (map.cloud onlyGood) := by
  obtain ⟨final, done, _⟩ := fold_reaches (fun c l => map.pushLandmark c l) (fun _ => True)
    (map.landmarks.filter fun l => l.isTriangulated && (!onlyGood || decide (l.quality = .good)))
    (fun c _ l chosen => by
      obtain ⟨member, shown⟩ := List.mem_filter.mp chosen
      have placed : l.isTriangulated = true := (Bool.and_eq_true_iff.mp shown).1
      obtain ⟨p, located⟩ := faultless_has_value (map.landmarkInGlobal l) fun broken => by
        rw [landmark_in_global_faults map consistent l member, placed] at broken
        cases broken
      rw [Map.pushLandmark, located]
      exact ⟨_, rfl, trivial⟩)
    Cloud.empty trivial
  rw [cloud_folds, done]
  exact ok_never_faults final

-- When the passes over a map fault: for what the caller asked, and never for what the map holds.
structure Map.PassFaultsExact [Spectral α] (map : Map α) : Prop where
  evaluate : ∀ c p ids, Faults (map.evaluateMissions c p ids) ↔
    (∃ id ∈ ids, map.missions.contains id = false) ∨
      ∃ l ∈ map.landmarks, l.mission ∈ ids ∧ l.isTriangulated = false
  all : ∀ p, ¬ Faults (map.retriangulateAll p)
  cloud : ∀ onlyGood, ¬ Faults (map.cloud onlyGood)
  missions : ∀ p ids, Faults (map.retriangulateMissions p ids) ↔
    ∃ id ∈ ids, map.missions.contains id = false
  vertex : ∀ p id, Faults (map.retriangulateVertex p id) ↔ map.vertices.contains id = false
  lookups : ∀ l ∈ map.landmarks, ∀ o ∈ l.observations, ∃ found, map.toPoseGraph.Resolves o found
  lengths : ∀ l ∈ map.landmarks, ∃ sightings, sightingsOf map.toPoseGraph l = .ok sightings ∧
    sightings.bearings.length = sightings.centers.length

theorem pass_faults_exact [Spectral α] (operations : List (Operation α)) (map : Map α)
    (unlinked : ∀ operation ∈ operations, operation.Unlinked)
    (done : Operation.run operations Map.empty = .ok map) : map.PassFaultsExact := by
  obtain ⟨consistent, linked⟩ := run_linked operations map unlinked done
  have lookups : ∀ l ∈ map.landmarks, ∀ o ∈ l.observations, ∃ found, map.toPoseGraph.Resolves o found :=
    fun l member o observed => observation_resolves map consistent linked l member o observed
  exact {
    evaluate := evaluate_missions_faults map consistent linked
    all := fun p => retriangulate_selected_never_faults map consistent linked p _
    cloud := cloud_never_faults map consistent
    missions := retriangulate_missions_faults map consistent linked
    vertex := retriangulate_vertex_faults map consistent linked
    lookups := lookups
    lengths := fun l member => sightings_aligned map.toPoseGraph l (lookups l member) }

theorem two_views_faults :
    ∃ map : Map Float, Operation.run twoViews Map.empty = .ok map ∧ map.PassFaultsExact ∧
      Faults (map.retriangulateVertex Parallelism.single (Id.ofNat 9)) := by
  have exact := pass_faults_exact twoViews _ two_views_unlinked rfl
  exact ⟨_, rfl, exact, (exact.vertex Parallelism.single (Id.ofNat 9)).mpr rfl⟩

end LandmarkMap
