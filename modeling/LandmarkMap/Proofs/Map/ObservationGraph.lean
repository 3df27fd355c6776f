import LandmarkMap.Proofs.Map.Consistency

set_option autoImplicit false

namespace LandmarkMap

variable {α : Type}

-- What a landmark contributes to the observation graph.
def Landmark.roster (l : Landmark α) : LandmarkId × List Observation := (l.id, l.observations)

theorem observe_perm (landmarks : List (Landmark α)) (i : Nat) (l : Landmark α) (o : Observation)
    (found : landmarks[i]? = some l) :
    ((landmarks.modify i (·.observe o)).flatMap (·.observations)).Perm
      (o :: landmarks.flatMap (·.observations)) := by
  induction landmarks generalizing i with
  | nil => cases found
  | cons first rest ih =>
      cases i with
      | zero =>
          rw [List.modify_zero_cons, List.flatMap_cons, List.flatMap_cons]
          change ((first.observations ++ [o]) ++ _).Perm _
          rw [List.append_assoc]
          exact List.perm_middle
      | succ i =>
          rw [List.modify_succ_cons, List.flatMap_cons, List.flatMap_cons]
          exact ((ih i found).append_left _).trans List.perm_middle

-- The landmark at a position observes more, and all others stay.
theorem observe_member (landmarks : List (Landmark α)) (i : Nat) (l m : Landmark α) (o : Observation)
    (found : landmarks[i]? = some l) (member : m ∈ landmarks.modify i (·.observe o)) :
    ∃ old ∈ landmarks, m.id = old.id ∧ ∀ seen ∈ m.observations,
      seen ∈ old.observations ∨ (seen = o ∧ old = l) := by
  obtain ⟨j, there⟩ := List.mem_iff_getElem?.mp member
  rw [List.getElem?_modify] at there
  obtain ⟨old, stored, rfl⟩ := Option.map_eq_some_iff.mp there
  refine ⟨old, List.mem_of_getElem? stored, ?_⟩
  by_cases here : i = j
  · have same : old = l := Option.some.inj (stored.symm.trans (here ▸ found))
    rw [if_pos here]
    refine ⟨rfl, ?_⟩
    intro seen member
    rcases List.mem_append.mp member with before | new
    · exact .inl before
    · exact .inr ⟨List.mem_singleton.mp new, same⟩
  · rw [if_neg here]
    exact ⟨rfl, fun _ before => .inl before⟩

theorem observe_keeps (landmarks : List (Landmark α)) (i : Nat) (m : Landmark α) (o : Observation)
    (member : m ∈ landmarks) :
    ∃ new ∈ landmarks.modify i (·.observe o), new.id = m.id ∧
      ∀ seen ∈ m.observations, seen ∈ new.observations := by
  obtain ⟨j, stored⟩ := List.mem_iff_getElem?.mp member
  have there : (landmarks.modify i (·.observe o))[j]? = some (if i = j then m.observe o else m) := by
    rw [List.getElem?_modify, stored]
    rfl
  refine ⟨_, List.mem_of_getElem? there, ?_⟩
  by_cases here : i = j
  · rw [if_pos here]
    exact ⟨rfl, fun _ before => List.mem_append_left _ before⟩
  · rw [if_neg here]
    exact ⟨rfl, fun _ before => before⟩

variable [Scalar α]

-- The landmark that a keypoint shows, none where there is no such keypoint.
def PoseGraph.shown? (g : PoseGraph α) (o : Observation) : Option LandmarkId :=
  ((g.vertices.get? o.vertex).bind fun v => v.frames[o.frame]?).bind fun f => f.landmarks[o.keypoint]?

def Map.observations (map : Map α) : List Observation := map.landmarks.flatMap (·.observations)

-- Nothing that such an operation brings in shows a landmark or observes a keypoint, unless it is
-- the operation that links the two.
def Operation.Unlinked : Operation α → Prop
  | addVertex vertex _ => ∀ f ∈ vertex.frames, f = Frame.empty
  | addLandmark landmark _ => landmark.observations = []
  | addKeypoint _ _ _ landmark => landmark = Id.invalid
  | _ => True

-- The two sides of the observation graph agree.
structure Map.Linked (map : Map α) : Prop where
  seen : ∀ l ∈ map.landmarks, ∀ o ∈ l.observations, map.shown? o = some l.id
  claimed : ∀ o id, id.isValid = true → map.shown? o = some id →
    ∃ l ∈ map.landmarks, l.id = id ∧ o ∈ l.observations
  once : map.observations.Nodup

theorem shown_found (g : PoseGraph α) (o : Observation) (id : LandmarkId) :
    g.shown? o = some id ↔ ∃ v f, g.vertices.get? o.vertex = some v ∧ v.frames[o.frame]? = some f ∧
      f.landmarks[o.keypoint]? = some id := by
  simp only [PoseGraph.shown?, Option.bind_eq_some_iff]
  constructor
  · rintro ⟨f, ⟨v, stored, framed⟩, found⟩
    exact ⟨v, f, stored, framed, found⟩
  · rintro ⟨v, f, stored, framed, found⟩
    exact ⟨f, ⟨v, stored, framed⟩, found⟩

theorem insert_vertex_shown (g : PoseGraph α) (missions : Table MissionId (Mission α))
    (vertex : Vertex α) (absent : g.vertices.get? vertex.id = none)
    (bare : ∀ f ∈ vertex.frames, f = Frame.empty) (o : Observation) :
    PoseGraph.shown? ⟨missions, g.vertices.insert vertex.id vertex⟩ o = g.shown? o := by
  by_cases here : o.vertex = vertex.id
  · have before : g.shown? o = none := by simp [PoseGraph.shown?, here, absent]
    rw [before, PoseGraph.shown?, here, Table.get_insert_self, Option.bind_some]
    cases framed : vertex.frames[o.frame]? with
    | none => rfl
    | some f =>
        rw [bare f (List.mem_of_getElem? framed)]
        rfl
  · simp only [PoseGraph.shown?, Table.get_insert_other _ here]

theorem set_pose_shown (g : PoseGraph α) (id : VertexId) (pose : Pose α) (o : Observation) :
    PoseGraph.shown? { g with vertices := g.vertices.modify id fun v =>
      { v with state := { v.state with pose } } } o = g.shown? o := by
  simp only [PoseGraph.shown?, Table.get_modify]
  by_cases here : o.vertex = id
  · rw [if_pos here]
    cases g.vertices.get? o.vertex with
    | none => rfl
    | some v => rfl
  · rw [if_neg here]

-- One more keypoint is shown, at the position that the frame reports for it.
theorem add_keypoint_shown (g : PoseGraph α) (vertex : VertexId) (frame : Nat) (keypoint : Vec2 α)
    (landmark : LandmarkId) (v : Vertex α) (f : Frame α) (stored : g.vertices.get? vertex = some v)
    (framed : v.frames[frame]? = some f) (aligned : v.Aligned) (o : Observation) (id : LandmarkId) :
    PoseGraph.shown?
        { g with vertices := g.vertices.modify vertex (·.addKeypoint frame keypoint landmark) } o = some id ↔
      g.shown? o = some id ∨ (o = ⟨vertex, frame, f.keypoints.length⟩ ∧ landmark = id) := by
  have length := aligned f (List.mem_of_getElem? framed)
  obtain ⟨w, i, k⟩ := o
  simp only [PoseGraph.shown?, Table.get_modify, Observation.mk.injEq]
  by_cases here : w = vertex
  · subst here
    simp only [if_true, stored, Option.map_some, Option.bind_some, Vertex.addKeypoint,
      List.getElem?_modify, true_and]
    by_cases same : i = frame
    · subst same
      simp only [if_true, framed, Option.map_eq_map, Option.map_some, Option.bind_some, Frame.add,
        true_and, concat_found, length]
    · simp [same, Ne.symm same]
  · simp [here]

theorem next_keypoint_unseen (g : PoseGraph α) (vertex : VertexId) (frame : Nat) (v : Vertex α)
    (f : Frame α) (stored : g.vertices.get? vertex = some v) (framed : v.frames[frame]? = some f)
    (aligned : v.Aligned) : g.shown? ⟨vertex, frame, f.keypoints.length⟩ = none := by
  have length := aligned f (List.mem_of_getElem? framed)
  simp [PoseGraph.shown?, stored, framed, ← length]

theorem empty_linked : (Map.empty : Map α).Linked := by
  constructor
  · intro l member
    cases member
  · intro o id _ shown
    cases shown
  · exact List.nodup_nil

-- Keypoints that show no landmark may come and go.
theorem same_links_linked (before after : Map α) (consistent : before.Consistent)
    (linked : before.Linked)
    (shown : ∀ o id, id.isValid = true → (after.shown? o = some id ↔ before.shown? o = some id))
    (rosters : after.landmarks.map Landmark.roster = before.landmarks.map Landmark.roster) :
    after.Linked := by
  constructor
  · intro l member o observed
    obtain ⟨old, there, same⟩ := mapped_member _ _ _ rosters l member
    have sameId : old.id = l.id := congrArg Prod.fst same
    have sameObservations : old.observations = l.observations := congrArg Prod.snd same
    have before := linked.seen old there o (sameObservations ▸ observed)
    exact (shown o l.id (sameId ▸ consistent.valid old there)).mpr (sameId ▸ before)
  · intro o id valid visible
    obtain ⟨old, there, sameId, observed⟩ := linked.claimed o id valid ((shown o id valid).mp visible)
    obtain ⟨l, member, same⟩ := mapped_member _ _ _ rosters.symm old there
    have newId : l.id = old.id := congrArg Prod.fst same
    have sameObservations : l.observations = old.observations := congrArg Prod.snd same
    exact ⟨l, member, newId.trans sameId, sameObservations ▸ observed⟩
  · have lists : after.observations = before.observations := by
      have seconds := congrArg (List.flatMap Prod.snd) rosters
      rwa [List.flatMap_map, List.flatMap_map] at seconds
    exact lists ▸ linked.once

theorem append_landmark_linked (map : Map α) (l : Landmark α) (index : Table LandmarkId Nat)
    (linked : map.Linked) (fresh : l.observations = []) :
    Map.Linked { map with landmarks := map.landmarks ++ [l], index } := by
  constructor
  · intro m member o observed
    rcases List.mem_append.mp member with old | new
    · exact linked.seen m old o observed
    · rw [List.mem_singleton.mp new, fresh] at observed
      cases observed
  · intro o id valid shown
    obtain ⟨m, old, same, observed⟩ := linked.claimed o id valid shown
    exact ⟨m, List.mem_append_left _ old, same, observed⟩
  · rw [Map.observations, List.flatMap_append, List.flatMap_singleton, fresh, List.append_nil]
    exact linked.once

-- The new keypoint and the new observation name each other, and neither was named before.
theorem add_observation_linked (map : Map α) (i : Nat) (l : Landmark α) (vertex : VertexId)
    (frame : Nat) (keypoint : Vec2 α) (v : Vertex α) (f : Frame α) (linked : map.Linked)
    (slot : map.landmarks[i]? = some l) (stored : map.vertices.get? vertex = some v)
    (framed : v.frames[frame]? = some f) (aligned : v.Aligned) :
    Map.Linked { map with
      vertices := map.vertices.modify vertex (·.addKeypoint frame keypoint l.id)
      landmarks := map.landmarks.modify i (·.observe ⟨vertex, frame, f.keypoints.length⟩) } := by
  have shown := add_keypoint_shown map.toPoseGraph vertex frame keypoint l.id v f stored framed aligned
  have unseen := next_keypoint_unseen map.toPoseGraph vertex frame v f stored framed aligned
  constructor
  · intro m member o observed
    obtain ⟨old, there, sameId, each⟩ := observe_member _ i l m _ slot member
    rw [sameId]
    rcases each o observed with before | ⟨new, same⟩
    · exact (shown o old.id).mpr (.inl (linked.seen old there o before))
    · exact (shown o old.id).mpr (.inr ⟨new, congrArg Landmark.id same.symm⟩)
  · intro o id valid visible
    rcases (shown o id).mp visible with before | ⟨new, same⟩
    · obtain ⟨old, there, sameId, observed⟩ := linked.claimed o id valid before
      obtain ⟨m, member, kept, each⟩ := observe_keeps _ i old _ there
      exact ⟨m, member, kept.trans sameId, each o observed⟩
    · have there : (map.landmarks.modify i (·.observe ⟨vertex, frame, f.keypoints.length⟩))[i]? =
          some (l.observe ⟨vertex, frame, f.keypoints.length⟩) := by
        rw [List.getElem?_modify, slot]
        simp
      exact ⟨_, List.mem_of_getElem? there, same, new ▸ List.mem_append_right _ List.mem_cons_self⟩
  · refine (observe_perm _ i l _ slot).nodup_iff.mpr (List.nodup_cons.mpr ⟨?_, linked.once⟩)
    intro member
    obtain ⟨m, there, observed⟩ := List.mem_flatMap.mp member
    cases unseen.symm.trans (linked.seen m there _ observed)

theorem indexed_landmark (map : Map α) (id : LandmarkId) (i : Nat) (consistent : map.Consistent)
    (stored : map.index.get? id = some i) : ∃ l, map.landmarks[i]? = some l ∧ l.id = id := by
  have found := (consistent.indexed id i).mp stored
  rw [Map.landmarkIds, List.getElem?_map] at found
  exact Option.map_eq_some_iff.mp found

theorem operation_keeps_linked [Spectral α] (operation : Operation α) (before after : Map α)
    (unlinked : operation.Unlinked) (consistent : before.Consistent) (linked : before.Linked)
    (done : operation.apply before = .ok after) : after.Linked := by
  cases operation with
  | addMission id toGlobal rig =>
      obtain ⟨_, _, rfl⟩ := (add_mission_ok _ _ _ _ _).mp done
      exact same_links_linked before _ consistent linked (fun _ _ _ => Iff.rfl) rfl
  | addVertex vertex built =>
      obtain ⟨_, _, _, absent, rfl⟩ := (add_vertex_ok _ _ _ _).mp done
      refine same_links_linked before _ consistent linked ?_ rfl
      intro o id _
      rw [insert_vertex_shown before.toPoseGraph _ vertex absent unlinked o]
  | addLandmark landmark built =>
      obtain ⟨_, _, rfl⟩ := (add_landmark_ok _ _ _ _).mp done
      exact append_landmark_linked before landmark _ linked unlinked
  | addKeypoint vertex frame keypoint landmark =>
      obtain ⟨v, f, stored, framed, rfl⟩ := (add_keypoint_ok _ _ _ _ _ _).mp done
      refine same_links_linked before _ consistent linked ?_ rfl
      intro o id valid
      have aligned := (consistent.graph.vertices vertex v stored).aligned
      rw [add_keypoint_shown before.toPoseGraph vertex frame keypoint landmark v f stored framed aligned]
      have different : landmark ≠ id := fun same => (id_valid id).mp valid (same.symm.trans unlinked)
      simp [different]
  | addObservation landmark vertex frame keypoint =>
      obtain ⟨i, v, f, _, slot, stored, framed, rfl⟩ := (add_observation_ok _ _ _ _ _ _).mp done
      obtain ⟨l, there, rfl⟩ := indexed_landmark before landmark i consistent slot
      exact add_observation_linked before i l vertex frame keypoint v f linked there stored framed
        (consistent.graph.vertices vertex v stored).aligned
  | setPose vertex pose =>
      obtain ⟨_, _, rfl⟩ := (set_pose_ok _ _ _ _).mp done
      refine same_links_linked before _ consistent linked ?_ rfl
      intro o id _
      rw [set_pose_shown before.toPoseGraph vertex pose o]
  | pass change =>
      obtain ⟨graph, _, landmarks⟩ := pass_effect change before after done
      refine same_links_linked before after consistent linked ?_ (related_map _ _ _ _ ?_ landmarks)
      · intro o id _
        rw [graph]
      · intro l m changed
        obtain ⟨sameId, _, sameObservations⟩ := changes_keep change _ l m changed
        exact Prod.ext sameId sameObservations

theorem run_linked [Spectral α] (operations : List (Operation α)) (map : Map α)
    (unlinked : ∀ operation ∈ operations, operation.Unlinked)
    (done : Operation.run operations Map.empty = .ok map) : map.Consistent ∧ map.Linked := by
  refine run_keeps (fun history map =>
    (∀ operation ∈ history, operation.Unlinked) → map.Consistent ∧ map.Linked)
    (fun _ => ⟨empty_consistent, empty_linked⟩) ?_ operations map done unlinked
  intro history operation before after sofar stepped allowed
  obtain ⟨consistent, linked⟩ := sofar fun earlier member => allowed earlier (List.mem_append_left _ member)
  have now := allowed operation (List.mem_append_right _ List.mem_cons_self)
  exact ⟨operation_keeps_consistent operation before after consistent stepped,
    operation_keeps_linked operation before after now consistent linked stepped⟩

-- Observations and keypoints that show a landmark correspond one to one.
structure Map.ObservationsExact (map : Map α) : Prop where
  shown : ∀ l ∈ map.landmarks, ∀ o ∈ l.observations, ∃ v f, map.vertices.get? o.vertex = some v ∧
    v.frames[o.frame]? = some f ∧ o.keypoint < f.keypoints.length ∧
    f.landmarks[o.keypoint]? = some l.id
  observed : ∀ (o : Observation) v f id, map.vertices.get? o.vertex = some v →
    v.frames[o.frame]? = some f → f.landmarks[o.keypoint]? = some id → id.isValid = true →
    ∃ l, map.landmark id = .ok l ∧ l.id = id ∧ o ∈ l.observations ∧ map.observations.count o = 1
  distinct : ∀ l ∈ map.landmarks, l.observations.Nodup
  unshared : ∀ l ∈ map.landmarks, ∀ m ∈ map.landmarks, ∀ o ∈ l.observations,
    o ∈ m.observations → l = m

theorem found_landmark (map : Map α) (l : Landmark α) (consistent : map.Consistent)
    (member : l ∈ map.landmarks) : map.landmark l.id = .ok l := by
  obtain ⟨i, there⟩ := List.mem_iff_getElem?.mp member
  have stored : map.index.get? l.id = some i := by
    rw [consistent.indexed, Map.landmarkIds, List.getElem?_map, there]
    rfl
  rw [Map.landmark, (slot_ok map l.id i).mpr ⟨consistent.valid l member, stored⟩, ok_bind]
  exact (fetch_ok _ _ _).mpr there

theorem shown_observation (map : Map α) (consistent : map.Consistent) (o : Observation)
    (id : LandmarkId) (shown : map.shown? o = some id) :
    ∃ v f, map.vertices.get? o.vertex = some v ∧ v.frames[o.frame]? = some f ∧
      o.keypoint < f.keypoints.length ∧ f.landmarks[o.keypoint]? = some id := by
  obtain ⟨v, f, stored, framed, found⟩ := (shown_found _ _ _).mp shown
  obtain ⟨inside, _⟩ := List.getElem?_eq_some_iff.mp found
  have aligned := (consistent.graph.vertices o.vertex v stored).aligned f (List.mem_of_getElem? framed)
  exact ⟨v, f, stored, framed, aligned ▸ inside, found⟩

theorem linked_exact (map : Map α) (consistent : map.Consistent) (linked : map.Linked) :
    map.ObservationsExact := by
  constructor
  · intro l member o observed
    exact shown_observation map consistent o l.id (linked.seen l member o observed)
  · intro o v f id stored framed found valid
    have shown := (shown_found map.toPoseGraph o id).mpr ⟨v, f, stored, framed, found⟩
    obtain ⟨l, member, rfl, observed⟩ := linked.claimed o id valid shown
    have listed : o ∈ map.observations := List.mem_flatMap.mpr ⟨l, member, observed⟩
    exact ⟨l, found_landmark map l consistent member, rfl, observed,
      List.count_eq_one_of_mem linked.once listed⟩
  · exact (List.nodup_flatMap.mp linked.once).1
  · intro l member m other o observed shared
    have same : l.id = m.id :=
      Option.some.inj ((linked.seen l member o observed).symm.trans (linked.seen m other o shared))
    exact List.inj_on_of_nodup_map consistent.distinct member other same

theorem observation_graph_exact [Spectral α] (operations : List (Operation α)) (map : Map α)
    (unlinked : ∀ operation ∈ operations, operation.Unlinked)
    (done : Operation.run operations Map.empty = .ok map) : map.ObservationsExact := by
  obtain ⟨consistent, linked⟩ := run_linked operations map unlinked done
  exact linked_exact map consistent linked

theorem two_views_unlinked : ∀ operation ∈ twoViews, operation.Unlinked := by
  simp [twoViews, Operation.Unlinked, restingVertex]

theorem two_views_exact :
    ∃ map : Map Float, Operation.run twoViews Map.empty = .ok map ∧ map.ObservationsExact ∧
      map.observations = [⟨Id.ofNat 2, 0, 0⟩, ⟨Id.ofNat 3, 0, 1⟩] :=
  ⟨_, rfl, observation_graph_exact twoViews _ two_views_unlinked rfl, rfl⟩

end LandmarkMap
