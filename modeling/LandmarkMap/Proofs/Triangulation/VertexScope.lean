import LandmarkMap.Proofs.Map.PassAlgebra
import LandmarkMap.Proofs.Map.PassFaults
import LandmarkMap.Proofs.Triangulation.Sightings

set_option autoImplicit false

namespace LandmarkMap

variable {α : Type}

-- Whether some frame of a vertex observed the landmark, by the landmark's own list.
def Landmark.seenAt (id : VertexId) (l : Landmark α) : Bool := l.observations.any fun o => o.vertex == id

theorem seen_at (id : VertexId) (l : Landmark α) : l.seenAt id = true ↔ ∃ o ∈ l.observations, o.vertex = id := by
  simp [Landmark.seenAt]

-- A keypoint keeps its position where another one is added.
theorem add_keypoint_keeps (v : Vertex α) (frame : Nat) (keypoint : Vec2 α) (landmark : LandmarkId) (i k : Nat)
    (f : Frame α) (p : Vec2 α) (framed : v.frames[i]? = some f) (there : f.keypoints[k]? = some p) :
    ∃ f', (v.addKeypoint frame keypoint landmark).frames[i]? = some f' ∧ f'.keypoints[k]? = some p := by
  rw [Vertex.addKeypoint, List.getElem?_modify, framed]
  by_cases here : frame = i
  · exact ⟨f.add keypoint landmark, congrArg some (if_pos here), (concat_found _ _ _ _).mpr (.inl there)⟩
  · exact ⟨f, congrArg some (if_neg here), there⟩

variable [Scalar α]

-- The keypoints that show nothing are listed under the invalid identifier, which no landmark has.
theorem vertex_shows (map : Map α) (consistent : map.Consistent) (linked : map.Linked) (id : VertexId)
    (v : Vertex α) (stored : map.vertices.get? id = some v) (l : Landmark α) (member : l ∈ map.landmarks) :
    v.landmarks.contains l.id = l.seenAt id := by
  rw [Bool.eq_iff_iff, List.contains_iff_mem, seen_at, Vertex.landmarks, List.mem_flatMap]
  constructor
  · rintro ⟨f, framed, shown⟩
    obtain ⟨i, framed⟩ := List.mem_iff_getElem?.mp framed
    obtain ⟨k, shown⟩ := List.mem_iff_getElem?.mp shown
    have visible : map.shown? ⟨id, i, k⟩ = some l.id := (shown_found _ _ _).mpr ⟨v, f, stored, framed, shown⟩
    obtain ⟨m, other, same, observed⟩ := linked.claimed _ l.id (consistent.valid l member) visible
    cases List.inj_on_of_nodup_map consistent.distinct other member same
    exact ⟨_, observed, rfl⟩
  · rintro ⟨o, observed, rfl⟩
    obtain ⟨w, f, there, framed, shown⟩ := (shown_found _ _ _).mp (linked.seen l member o observed)
    cases stored.symm.trans there
    exact ⟨f, List.mem_of_getElem? framed, List.mem_of_getElem? shown⟩

section OneByOne

variable {change : Landmark α → Except (Fault α) (Landmark α)}

theorem one_rewritten (map : Map α) (consistent : map.Consistent) (i : Nat) (l m : Landmark α)
    (found : map.landmarks[i]? = some l) (done : change l = .ok m) (landmarks : List (Landmark α))
    (each : List.Forall₂ (Rewrites (fun n => n.id == l.id) change) map.landmarks landmarks) :
    landmarks = map.landmarks.set i m := by
  have slot : ∀ (j : Nat) (n : Landmark α), map.landmarks[j]? = some n → map.index.get? n.id = some j := by
    intro j n there
    rw [consistent.indexed, Map.landmarkIds, List.getElem?_map, there]
    rfl
  refine List.ext_getElem? fun j => ?_
  cases there : map.landmarks[j]? with
  | none =>
      have past := List.getElem?_eq_none_iff.mp there
      rw [List.getElem?_eq_none (each.length_eq ▸ past), List.getElem?_eq_none (by rwa [List.length_set])]
  | some old =>
      obtain ⟨new, stored, rewritten⟩ := related_found _ _ _ each j old there
      rw [stored, List.getElem?_set, there]
      by_cases here : i = j
      · subst here
        cases found.symm.trans there
        have chosen := (rewrites_chosen (fun n => n.id == l.id) change l new (beq_self_eq_true l.id)).mp rewritten
        cases done.symm.trans chosen
        simp [(List.getElem?_eq_some_iff.mp there).1]
      · have other : (old.id == l.id) = false := by
          refine beq_false_of_ne fun same => here ?_
          exact Option.some.inj ((slot i l found).symm.trans (same ▸ slot j old there))
        rw [if_neg here, (rewrites_other (fun n => n.id == l.id) change old new other).mp rewritten]

end OneByOne

variable [Spectral α]

theorem retriangulate_selected_same (map : Map α) (p : Parallelism) (first second : Landmark α → Bool)
    (same : ∀ l ∈ map.landmarks, first l = second l) :
    map.retriangulateSelected p first = map.retriangulateSelected p second := by
  rw [Map.retriangulateSelected, Map.retriangulateSelected, map_batches_pointwise, map_batches_pointwise]
  congr 1
  refine map_m_congr _ _ _ fun l member => ?_
  rw [same l member]

theorem retriangulate_vertex_seen (map : Map α) (consistent : map.Consistent) (linked : map.Linked)
    (id : VertexId) (v : Vertex α) (stored : map.vertices.get? id = some v) (p : Parallelism) :
    map.retriangulateVertex p id = map.retriangulateSelected p (·.seenAt id) := by
  rw [Map.retriangulateVertex, (vertex_ok _ _ _).mpr stored, ok_bind]
  exact retriangulate_selected_same map p _ _ (vertex_shows map consistent linked id v stored)

theorem one_retriangulated (map after : Map α) (consistent : map.Consistent) (id : LandmarkId)
    (there : id ∈ map.landmarkIds)
    (related : LandmarksRelated (Rewrites (fun l => l.id == id) (triangulate map.toPoseGraph)) map after) :
    (Pass.retriangulateOne id).apply map = .ok after := by
  obtain ⟨l, member, rfl⟩ := List.mem_map.mp there
  obtain ⟨i, found⟩ := List.mem_iff_getElem?.mp member
  obtain ⟨landmarks, each, rfl⟩ := (related_landmarks _ _ _).mp related
  obtain ⟨m, _, rewritten⟩ := related_found _ _ _ each i l found
  have done := (rewrites_chosen (fun n => n.id == l.id) _ l m (beq_self_eq_true l.id)).mp rewritten
  cases one_rewritten map consistent i l m found done landmarks each
  obtain ⟨⟨_, result⟩, moved, rfl⟩ := (map_ok _ _ _).mp done
  have slot : map.slot l.id = .ok i := by
    rw [slot_ok, consistent.indexed, Map.landmarkIds, List.getElem?_map, found]
    exact ⟨consistent.valid l member, rfl⟩
  rw [Pass.apply, Map.retriangulateOne, slot, ok_bind, found_landmark map l consistent member, ok_bind, moved]
  rfl

-- Each landmark is where it was before, so that the rest of the list finds it again.
theorem each_retriangulated (ids : List LandmarkId) (map after : Map α) (consistent : map.Consistent)
    (there : ∀ id ∈ ids, id ∈ map.landmarkIds)
    (related : LandmarksRelated (Rewrites (fun l => ids.contains l.id) (triangulate map.toPoseGraph)) map after) :
    Pass.run (ids.map .retriangulateOne) map = .ok after := by
  induction ids generalizing map with
  | nil =>
      obtain ⟨landmarks, each, rfl⟩ := (related_landmarks _ _ _).mp related
      have kept : landmarks = map.landmarks := by
        rw [eq_comm, ← List.forall₂_eq_eq_eq]
        refine each.imp fun l m rewritten => ?_
        exact ((rewrites_other (fun n : Landmark α => [].contains n.id) _ l m List.contains_nil).mp rewritten).symm
      rw [kept]
      rfl
  | cons id rest ih =>
      have split : LandmarksRelated (fun l n => ∃ m, Rewrites (fun l => l.id == id) (triangulate map.toPoseGraph) l m ∧
          Rewrites (fun l => rest.contains l.id) (triangulate map.toPoseGraph) m n) map after := by
        simp only [rewrites_either _ _ _ (triangulate_settles map.toPoseGraph)]
        simpa only [List.contains_cons] using related
      obtain ⟨middle, first, others⟩ := (maps_compose _ _ _ _).mpr split
      have stepped := one_retriangulated map middle consistent id (there id List.mem_cons_self) first
      have alike := (pass_alike _ map middle stepped).landmarks
      have ids : middle.landmarkIds = map.landmarkIds := related_map _ _ _ _ (fun _ _ like => like.id) alike
      rw [List.map_cons, Pass.run, List.foldlM_cons, stepped, ok_bind]
      refine ih middle (operation_keeps_consistent (.pass (.retriangulateOne id)) map middle consistent stepped) ?_ ?_
      · intro other member
        exact ids ▸ there other (List.mem_cons_of_mem id member)
      · rw [first.graph]
        exact others

theorem add_keypoint_resolves (map more : Map α) (vertex : VertexId) (frame : Nat) (keypoint : Vec2 α)
    (landmark : LandmarkId) (added : (Operation.addKeypoint vertex frame keypoint landmark).apply map = .ok more)
    (o : Observation) (found : Lookups α) (resolves : map.toPoseGraph.Resolves o found) :
    ∃ found', more.toPoseGraph.Resolves o found' ∧ found'.sight? = found.sight? := by
  obtain ⟨_, _, _, _, rfl⟩ := (add_keypoint_ok _ _ _ _ _ _).mp added
  have stored := (vertex_ok _ _ _).mp resolves.vertex
  by_cases here : o.vertex = vertex
  · obtain ⟨f, framed, inside⟩ := add_keypoint_keeps found.vertex frame keypoint landmark o.frame o.keypoint found.frame
      found.keypoint ((frame_ok _ _ _).mp resolves.frame) ((fetch_ok _ _ _).mp resolves.keypoint)
    refine ⟨{ found with vertex := found.vertex.addKeypoint frame keypoint landmark, frame := f },
      ⟨?_, resolves.mission, (frame_ok _ _ _).mpr framed, (fetch_ok _ _ _).mpr inside, resolves.mount⟩, rfl⟩
    rw [vertex_ok, Table.get_modify, if_pos here, stored, Option.map_some]
  · refine ⟨found, ⟨?_, resolves.mission, resolves.frame, resolves.keypoint, resolves.mount⟩, rfl⟩
    rw [vertex_ok, Table.get_modify, if_neg here, stored]

theorem add_keypoint_retriangulates (map more : Map α) (consistent : map.Consistent) (linked : map.Linked)
    (vertex : VertexId) (frame : Nat) (keypoint : Vec2 α) (landmark : LandmarkId)
    (added : (Operation.addKeypoint vertex frame keypoint landmark).apply map = .ok more)
    (l : Landmark α) (member : l ∈ map.landmarks) :
    retriangulate more.toPoseGraph l = retriangulate map.toPoseGraph l := by
  have sights : sightsOf more.toPoseGraph l = sightsOf map.toPoseGraph l := by
    rw [sightsOf, sightsOf]
    refine congrArg _ (map_m_congr _ _ _ fun o observed => ?_)
    obtain ⟨found, resolves⟩ := observation_resolves map consistent linked l member o observed
    obtain ⟨found', resolves', same⟩ := add_keypoint_resolves map more vertex frame keypoint landmark added o found resolves
    rw [resolved_sight _ o found' resolves', resolved_sight _ o found resolves, same]
  have settled : settle more.toPoseGraph l = settle map.toPoseGraph l := by
    obtain ⟨_, _, _, _, rfl⟩ := (add_keypoint_ok _ _ _ _ _ _).mp added
    funext result
    cases result with
    | successful p => rfl
    | tooFewMeasurements => rfl
    | unobservable => rfl
  rw [retriangulate_settles, retriangulate_settles, triangulation_sights, triangulation_sights, sights, settled]

theorem add_keypoint_selected (map more after : Map α) (consistent : map.Consistent) (linked : map.Linked)
    (vertex : VertexId) (frame : Nat) (keypoint : Vec2 α) (landmark : LandmarkId)
    (added : (Operation.addKeypoint vertex frame keypoint landmark).apply map = .ok more)
    (p : Parallelism) (selected : Landmark α → Bool) (summary : TriangulationSummary)
    (done : map.retriangulateSelected p selected = .ok (after, summary)) :
    more.retriangulateSelected p selected = .ok ({ more with landmarks := after.landmarks }, summary) := by
  have kept : more.landmarks = map.landmarks := by
    obtain ⟨_, _, _, _, rfl⟩ := (add_keypoint_ok _ _ _ _ _ _).mp added
    rfl
  rw [Map.retriangulateSelected, map_batches_pointwise, bind_ok] at done ⊢
  obtain ⟨outcomes, each, done⟩ := done
  cases (pure_ok _ _).mp done
  refine ⟨outcomes, ?_, rfl⟩
  rw [kept, ← each]
  refine map_m_congr _ _ _ fun l member => ?_
  rw [add_keypoint_retriangulates map more consistent linked vertex frame keypoint landmark added l member]

-- What triangulation by a vertex does. It is the same where keypoints without a landmark are added, and one
-- more observation of a landmark that the vertex sees already does not count.
structure Map.VertexRetriangulated (map : Map α) (id : VertexId) (after : Map α) (summary : TriangulationSummary) :
    Prop where
  done : ∀ p, map.retriangulateVertex p id = .ok (after, summary)
  effect : map.Retriangulated (·.seenAt id) after summary
  one_by_one : ∀ ids : List LandmarkId, (∀ k, k ∈ ids ↔ ∃ l ∈ map.landmarks, l.seenAt id = true ∧ l.id = k) →
    Pass.run (ids.map .retriangulateOne) map = .ok after
  bare : ∀ vertex frame keypoint more,
    (Operation.addKeypoint vertex frame keypoint Id.invalid).apply map = .ok more →
      ∀ p, more.retriangulateVertex p id = .ok ({ more with landmarks := after.landmarks }, summary)
  repeated : ∀ l ∈ map.landmarks, l.seenAt id = true → ∀ frame keypoint more,
    (Operation.addObservation l.id id frame keypoint).apply map = .ok more →
      ∃ after' summary', (∀ p, more.retriangulateVertex p id = .ok (after', summary')) ∧
        summary'.total = summary.total

theorem seen_retriangulated (map : Map α) (consistent : map.Consistent) (linked : map.Linked) (id : VertexId)
    (v : Vertex α) (stored : map.vertices.get? id = some v) :
    ∃ after summary, (∀ p, map.retriangulateVertex p id = .ok (after, summary)) ∧
      map.Retriangulated (·.seenAt id) after summary := by
  have seen := retriangulate_vertex_seen map consistent linked id v stored
  obtain ⟨⟨after, summary⟩, done⟩ := faultless_has_value _
    (retriangulate_selected_never_faults map consistent linked Parallelism.single (·.seenAt id))
  refine ⟨after, summary, fun p => ?_, retriangulated_map map after _ _ summary done⟩
  rw [seen p]
  exact (retriangulated_treated _ _ _ _ _).mpr ((retriangulated_treated _ _ _ _ _).mp done)

theorem seen_one_by_one (map after : Map α) (consistent : map.Consistent) (id : VertexId) (p : Parallelism)
    (summary : TriangulationSummary) (done : map.retriangulateSelected p (·.seenAt id) = .ok (after, summary))
    (ids : List LandmarkId) (exact : ∀ k, k ∈ ids ↔ ∃ l ∈ map.landmarks, l.seenAt id = true ∧ l.id = k) :
    Pass.run (ids.map .retriangulateOne) map = .ok after := by
  have same : ∀ l ∈ map.landmarks, ids.contains l.id = l.seenAt id := by
    intro l member
    rw [Bool.eq_iff_iff, List.contains_iff_mem, exact]
    constructor
    · rintro ⟨m, other, seen, same⟩
      cases List.inj_on_of_nodup_map consistent.distinct other member same
      exact seen
    · exact fun seen => ⟨l, member, seen, rfl⟩
  refine each_retriangulated ids map after consistent ?_ ?_
  · intro k listed
    obtain ⟨l, member, _, rfl⟩ := (exact k).mp listed
    exact List.mem_map_of_mem member
  · refine (retriangulate_selected_related map after p _).mp ⟨summary, ?_⟩
    rw [retriangulate_selected_same map p _ _ same, done]

theorem observe_keeps_seen (map more : Map α) (consistent : map.Consistent) (id : VertexId) (l : Landmark α)
    (member : l ∈ map.landmarks) (seen : l.seenAt id = true) (frame : Nat) (keypoint : Vec2 α)
    (added : (Operation.addObservation l.id id frame keypoint).apply map = .ok more) :
    more.landmarks.countP (·.seenAt id) = map.landmarks.countP (·.seenAt id) := by
  obtain ⟨i, _, f, _, slot, _, _, rfl⟩ := (add_observation_ok _ _ _ _ _ _).mp added
  obtain ⟨m, found, same⟩ := indexed_landmark map l.id i consistent slot
  cases List.inj_on_of_nodup_map consistent.distinct (List.mem_of_getElem? found) member same
  have kept : List.Forall₂ (fun m n : Landmark α => n.seenAt id = m.seenAt id) map.landmarks
      (map.landmarks.modify i (·.observe ⟨id, frame, f.keypoints.length⟩)) := by
    rw [List.modify_eq_set_getElem?, found]
    refine set_related _ _ i l _ (fun _ => rfl) found ?_
    rw [seen, seen_at]
    exact ⟨_, List.mem_append_right _ List.mem_cons_self, rfl⟩
  have marks := congrArg (List.countP fun seen => seen) (related_map _ (Landmark.seenAt id) _ _ (fun _ _ same => same) kept)
  rwa [List.countP_map, List.countP_map] at marks

omit [Spectral α] in
theorem modified_vertex_stays (g : PoseGraph α) (vertex id : VertexId) (change : Vertex α → Vertex α) (v : Vertex α)
    (stored : g.vertices.get? id = some v) : ∃ w, (g.vertices.modify vertex change).get? id = some w := by
  rw [← Table.contains_get, Table.contains_modify, Table.contains_get]
  exact ⟨v, stored⟩

theorem bare_keypoint_retriangulates (map more after : Map α) (consistent : map.Consistent) (linked : map.Linked)
    (id : VertexId) (v : Vertex α) (stored : map.vertices.get? id = some v) (summary : TriangulationSummary)
    (vertex : VertexId) (frame : Nat) (keypoint : Vec2 α)
    (added : (Operation.addKeypoint vertex frame keypoint Id.invalid).apply map = .ok more) (p : Parallelism)
    (done : map.retriangulateSelected p (·.seenAt id) = .ok (after, summary)) :
    more.retriangulateVertex p id = .ok ({ more with landmarks := after.landmarks }, summary) := by
  let operation : Operation α := .addKeypoint vertex frame keypoint Id.invalid
  have consistent' := operation_keeps_consistent operation map more consistent added
  have linked' := operation_keeps_linked operation map more rfl consistent linked added
  obtain ⟨w, stored'⟩ : ∃ w, more.vertices.get? id = some w := by
    obtain ⟨_, _, _, _, rfl⟩ := (add_keypoint_ok _ _ _ _ _ _).mp added
    exact modified_vertex_stays map.toPoseGraph vertex id _ v stored
  rw [retriangulate_vertex_seen more consistent' linked' id w stored' p]
  exact add_keypoint_selected map more after consistent linked vertex frame keypoint Id.invalid added p _ summary done

theorem repeated_observation_counts_once (map more : Map α) (consistent : map.Consistent) (linked : map.Linked)
    (id : VertexId) (v : Vertex α) (stored : map.vertices.get? id = some v) (l : Landmark α) (member : l ∈ map.landmarks)
    (seen : l.seenAt id = true) (frame : Nat) (keypoint : Vec2 α)
    (added : (Operation.addObservation l.id id frame keypoint).apply map = .ok more) :
    ∃ after summary, (∀ p, more.retriangulateVertex p id = .ok (after, summary)) ∧
      summary.total = map.landmarks.countP (·.seenAt id) := by
  let operation : Operation α := .addObservation l.id id frame keypoint
  have consistent' := operation_keeps_consistent operation map more consistent added
  have linked' := operation_keeps_linked operation map more trivial consistent linked added
  obtain ⟨w, stored'⟩ : ∃ w, more.vertices.get? id = some w := by
    obtain ⟨_, _, _, _, _, _, _, rfl⟩ := (add_observation_ok _ _ _ _ _ _).mp added
    exact modified_vertex_stays map.toPoseGraph id id _ v stored
  obtain ⟨after, summary, moved, effect⟩ := seen_retriangulated more consistent' linked' id w stored'
  exact ⟨after, summary, moved,
    effect.total.trans (observe_keeps_seen map more consistent id l member seen frame keypoint added)⟩

theorem vertex_retriangulated (operations : List (Operation α)) (map : Map α)
    (unlinked : ∀ operation ∈ operations, operation.Unlinked)
    (done : Operation.run operations Map.empty = .ok map) (id : VertexId) (v : Vertex α)
    (stored : map.vertices.get? id = some v) :
    ∃ after summary, map.VertexRetriangulated id after summary := by
  obtain ⟨consistent, linked⟩ := run_linked operations map unlinked done
  obtain ⟨after, summary, moved, effect⟩ := seen_retriangulated map consistent linked id v stored
  have selected : ∀ p, map.retriangulateSelected p (·.seenAt id) = .ok (after, summary) := fun p =>
    (retriangulate_vertex_seen map consistent linked id v stored p).symm.trans (moved p)
  refine ⟨after, summary, moved, effect, ?_, ?_, ?_⟩
  · exact seen_one_by_one map after consistent id Parallelism.single summary (selected _)
  · intro vertex frame keypoint more added p
    exact bare_keypoint_retriangulates map more after consistent linked id v stored summary vertex frame keypoint added p
      (selected p)
  · intro l member seen frame keypoint more added
    rw [effect.total]
    exact repeated_observation_counts_once map more consistent linked id v stored l member seen frame keypoint added

theorem two_missions_run : Operation.run twoMissions Map.empty = .ok twoMissionsMap :=
  value_or _ _ (by decide +kernel)

theorem two_missions_unlinked : ∀ operation ∈ twoMissions, operation.Unlinked := by
  simp [twoMissions, Operation.Unlinked, restingVertex]

-- The far vertex sees the first and the last of the three landmarks, in either order.
theorem far_vertex_retriangulated :
    ∃ after, twoMissionsMap.VertexRetriangulated farVertex after ⟨2, 0, 0⟩ ∧
      after.landmarks.map (·.quality) = [.unknown, .good, .unknown] ∧
      Pass.run [.retriangulateOne (Id.ofNat 8), .retriangulateOne (Id.ofNat 5)] twoMissionsMap = .ok after := by
  have there : twoMissionsMap.vertices.contains farVertex = true := by decide +kernel
  obtain ⟨v, stored⟩ := (Table.contains_get _ _).mp there
  obtain ⟨after, summary, exact⟩ :=
    vertex_retriangulated twoMissions twoMissionsMap two_missions_unlinked two_missions_run farVertex v stored
  have moved : ((twoMissionsMap.retriangulateVertex Parallelism.single farVertex).toOption.map
      fun (after, summary) => (after.landmarks.map (·.quality), summary)) =
        some ([.unknown, .good, .unknown], ⟨2, 0, 0⟩) := by
    decide +kernel
  have seen : (twoMissionsMap.landmarks.filter (·.seenAt farVertex)).map (·.id) = [Id.ofNat 5, Id.ofNat 8] := by
    decide +kernel
  rw [exact.done] at moved
  obtain ⟨labels, rfl⟩ := Prod.mk.inj (Option.some.inj moved)
  refine ⟨after, exact, labels, exact.one_by_one [Id.ofNat 8, Id.ofNat 5] fun k => ?_⟩
  have listed : k ∈ [Id.ofNat 8, Id.ofNat 5] ↔ k ∈ (twoMissionsMap.landmarks.filter (·.seenAt farVertex)).map (·.id) := by
    rw [seen]
    simp [or_comm]
  rw [listed, List.mem_map]
  simp only [List.mem_filter, and_assoc]

end LandmarkMap
