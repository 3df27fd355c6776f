import LandmarkMap.Proofs.Map.Interpolation

set_option autoImplicit false

namespace LandmarkMap

section Brackets

variable {ordered : List (Vertex ℝ)} {t : Timestamp} {a b : Vertex ℝ} {share : ℝ}

theorem Bracket.first (bracket : Bracket ordered t a b share) : a ∈ ordered := bracket.consecutive.subset List.mem_cons_self

theorem Bracket.second (bracket : Bracket ordered t a b share) : b ∈ ordered :=
  bracket.consecutive.subset (List.mem_cons_of_mem a List.mem_cons_self)

-- No vertex stands in between.
theorem Bracket.last_before (bracket : Bracket ordered t a b share)
    (ascending : ordered.Pairwise fun v w => v.time.instant ≤ w.time.instant) (v : Vertex ℝ) (member : v ∈ ordered)
    (early : v.time.instant ≤ t.instant) : v.time.instant ≤ a.time.instant := by
  obtain ⟨earlier, later, rfl⟩ := bracket.consecutive
  rw [List.append_assoc, List.pairwise_append] at ascending
  obtain ⟨_, rest, across⟩ := ascending
  have passed := early.trans_lt bracket.before
  rw [List.append_assoc] at member
  rcases List.mem_append.mp member with past | member
  · exact across v past a List.mem_cons_self
  · rcases List.mem_cons.mp member with rfl | member
    · exact le_refl _
    · rcases List.mem_cons.mp member with rfl | future
      · exact absurd passed (lt_irrefl _)
      · have beyond := (List.pairwise_cons.mp (List.pairwise_cons.mp rest).2).1 v future
        exact absurd passed (not_lt.mpr beyond)

end Brackets

section Poses

variable (ordered : List (Vertex ℝ)) (rigid : ∀ v ∈ ordered, v.state.pose.IsRigid) (t : Timestamp) (pose : Pose ℝ)

include rigid

theorem interpolated_rigid (answer : Interpolated ordered t pose) : pose.IsRigid := by
  cases answer with
  | between a b share bracket blend =>
      rw [blend.whole]
      exact interpolate_rigid _ _ _ (rigid a bracket.first) (rigid b bracket.second) bracket.start bracket.stop.le
  | last v final time same =>
      rw [same]
      exact rigid v (List.mem_of_mem_getLast? final)

theorem interpolated_knot (ascending : ordered.Pairwise fun v w => v.time.instant ≤ w.time.instant)
    (distinct : ∀ v ∈ ordered, ∀ w ∈ ordered, v.time = w.time → v = w) (v : Vertex ℝ) (member : v ∈ ordered)
    (answer : Interpolated ordered v.time pose) : pose = v.state.pose := by
  cases answer with
  | between a b share bracket blend =>
      have reached := bracket.last_before ascending v member le_rfl
      have met := distinct a bracket.first v member (instant_injective _ _ (le_antisymm bracket.after reached))
      have none : share = 0 := by
        rw [bracket.ratio, met, Timestamp.shareBetween, sub_self, Int.cast_zero, zero_div]
      rw [blend.whole, none, interpolate_start _ _ (rigid a bracket.first) (rigid b bracket.second), met]
  | last w final time same =>
      rw [same, distinct w (List.mem_of_mem_getLast? final) v member time.symm]

end Poses

theorem interpolate_asked (map : Map ℝ) (id : MissionId) (m : Mission ℝ) (found : map.missions.get? id = some m)
    (times : List Timestamp) (answer : Option (List (Pose ℝ))) (answered : map.interpolate? id times = .ok answer) :
    times ≠ [] ∧ m.vertices ≠ [] := by
  obtain ⟨asked, answered⟩ := (require_bind_ok _ _ _ _).mp answered
  refine ⟨asked, fun none => ?_⟩
  have nothing : map.samples m = .ok [] := by
    rw [Map.samples, none, List.mapM_nil]
    exact congrArg Except.ok List.mergeSort_nil
  rw [(mission_ok _ _ _).mpr found, ok_bind, nothing] at answered
  cases answered

theorem rigid_answers (map : Map ℝ) (consistent : map.Consistent) (lens : Pinhole ℝ → Prop)
    (holds : map.toPoseGraph.Holds Pose.IsRigid lens) (id : MissionId) (m : Mission ℝ)
    (found : map.missions.get? id = some m) (filled : m.vertices ≠ []) (near : map.FitsClock m)
    (distinct : ∀ v w, map.Visits m v → map.Visits m w → v.time = w.time → v = w) :
    ∃ poseAt : Timestamp → Pose ℝ,
      (∀ t, map.Spans m t → (poseAt t).IsRigid ∧ ∀ v, map.Visits m v → t = v.time → poseAt t = v.state.pose) ∧
      map.Answers id m poseAt := by
  obtain ⟨added, poseAt, stored, bracketed, answers⟩ := interpolate_answers map consistent id m found filled near
  have order := sorted_by_time added
  have visits := time_ordered_visits map.toPoseGraph m added _ stored order
  have rigid : ∀ v ∈ sortByTime added, v.state.pose.IsRigid := by
    intro v member
    obtain ⟨key, _, kept⟩ := (visits v).mp member
    exact holds.bodies key v kept
  refine ⟨poseAt, fun t inside => ⟨interpolated_rigid _ rigid t _ (bracketed t inside), ?_⟩, answers⟩
  rintro v visited rfl
  exact interpolated_knot _ rigid _ order.ascending
    (fun v first w second => distinct v w ((visits v).mp first) ((visits w).mp second)) v ((visits v).mpr visited)
    (bracketed _ inside)

-- Nothing but the base of the mission and the poses at its times goes into an answer.
theorem interpolate_same (map other : Map ℝ) (id : MissionId) (m n : Mission ℝ) (found : map.missions.get? id = some m)
    (there : other.missions.get? id = some n) (base : n.toGlobal = m.toGlobal) (samples : other.samples n = map.samples m)
    (times : List Timestamp) : other.interpolate? id times = map.interpolate? id times := by
  rw [Map.interpolate?, Map.interpolate?, (mission_ok _ _ _).mpr found, (mission_ok _ _ _).mpr there, ok_bind, ok_bind,
    samples, base]

theorem interpolate_reordered (map other : Map ℝ) (consistent : map.Consistent) (alike : other.Consistent) (id : MissionId)
    (m n : Mission ℝ) (found : map.missions.get? id = some m) (there : other.missions.get? id = some n)
    (base : n.toGlobal = m.toGlobal) (order : n.vertices.Perm m.vertices)
    (kept : ∀ key ∈ m.vertices, (other.vertices.get? key).map Vertex.sample = (map.vertices.get? key).map Vertex.sample)
    (distinct : ∀ v w, map.Visits m v → map.Visits m w → v.time = w.time → v = w) (times : List Timestamp) :
    other.interpolate? id times = map.interpolate? id times := by
  obtain ⟨added, stored⟩ := listed_stored map.toPoseGraph id m (consistent.graph.missions id m found)
  obtain ⟨moved, held⟩ := listed_stored other.toPoseGraph id n (alike.graph.missions id n there)
  have visits := stored_visits map.toPoseGraph m added stored
  have samples := samples_of_distinct_times added moved
    (samples_reordered map.toPoseGraph other.toPoseGraph _ _ added moved stored held order kept)
    fun v first w second => distinct v w ((visits v).mp first) ((visits w).mp second)
  refine interpolate_same map other id m n found there base ?_ times
  rw [samples_stored other n moved held, samples_stored map m added stored, samples]

theorem interpolation_knots [Spectral ℝ] (operations : List (Operation ℝ)) (map : Map ℝ)
    (brings : ∀ operation ∈ operations, operation.Brings Pose.IsRigid fun _ => True)
    (done : Operation.run operations Map.empty = .ok map) (id : MissionId) (m : Mission ℝ)
    (found : map.missions.get? id = some m) (near : map.FitsClock m)
    (distinct : ∀ v w, map.Visits m v → map.Visits m w → v.time = w.time → v = w) :
    (∀ v, map.Visits m v → map.interpolate? id [v.time] = .ok (some [m.toGlobal * v.state.pose])) ∧
      (∀ times poses, map.interpolate? id times = .ok (some poses) →
        List.Forall₂ (fun t pose => pose.rotation.IsUnit ∧
          ∀ v, map.Visits m v → t = v.time → pose = m.toGlobal * v.state.pose) times poses) ∧
      ∀ (others : List (Operation ℝ)) (other : Map ℝ) (n : Mission ℝ), Operation.run others Map.empty = .ok other →
        other.missions.get? id = some n → n.toGlobal = m.toGlobal →
        (Operation.insertionOrder others id).Perm (Operation.insertionOrder operations id) →
        (∀ key ∈ Operation.insertionOrder operations id,
          (other.vertices.get? key).map Vertex.sample = (map.vertices.get? key).map Vertex.sample) →
        ∀ times, other.interpolate? id times = map.interpolate? id times := by
  have consistent := run_consistent operations map done
  have holds := run_holds Pose.IsRigid (fun _ => True) operations map brings done
  have based := holds.bases id m found
  refine ⟨fun v visited => ?_, fun times poses answered => ?_, fun others other n reached there base order kept times => ?_⟩
  · have filled : m.vertices ≠ [] := List.ne_nil_of_mem visited.choose_spec.1
    obtain ⟨poseAt, knots, answers⟩ := rigid_answers map consistent _ holds id m found filled near distinct
    have inside : map.Spans m v.time := ⟨⟨v, visited, le_refl _⟩, v, visited, le_refl _⟩
    rw [answers.inside [v.time] (List.cons_ne_nil _ _) (List.forall_mem_singleton.mpr inside), List.map_singleton,
      (knots v.time inside).2 v visited rfl]
  · obtain ⟨asked, filled⟩ := interpolate_asked map id m found times _ answered
    obtain ⟨poseAt, knots, answers⟩ := rigid_answers map consistent _ holds id m found filled near distinct
    by_cases all : ∀ t ∈ times, map.Spans m t
    · cases (answers.inside times asked all).symm.trans answered
      rw [List.forall₂_map_right_iff, List.forall₂_same]
      intro t member
      obtain ⟨rigid, knot⟩ := knots t (all t member)
      exact ⟨rigid_product _ _ based rigid, fun v visited now => by rw [knot v visited now]⟩
    · have beyond : ∃ t ∈ times, ¬ map.Spans m t := by simpa using all
      cases (answers.outside times asked beyond).symm.trans answered
  · have entered := run_vertex_order operations map done id
    have shuffled := run_vertex_order others other reached id
    rw [PoseGraph.verticesOf, found, Option.elim_some] at entered
    rw [PoseGraph.verticesOf, there, Option.elim_some] at shuffled
    rw [← entered, ← shuffled] at order
    rw [← entered] at kept
    exact interpolate_reordered map other consistent (run_consistent others other reached) id m n found there base order
      kept distinct times

-- The walk without the twin, in both orders.

noncomputable def backwardWalk : List (Operation ℝ) :=
  [.addMission (Id.ofNat 1) (Pose.atPosition ⟨0, 0, 5⟩) offsetRig, .addVertex walkEnd walk_end_built,
    .addVertex walkStart walk_start_built]

noncomputable def forwardWalk : List (Operation ℝ) :=
  [.addMission (Id.ofNat 1) (Pose.atPosition ⟨0, 0, 5⟩) offsetRig, .addVertex walkStart walk_start_built,
    .addVertex walkEnd walk_end_built]

noncomputable def backwardMap : Map ℝ := (@Operation.run ℝ _ eigenSpectral backwardWalk Map.empty).toOption.getD Map.empty

noncomputable def forwardMap : Map ℝ := (@Operation.run ℝ _ eigenSpectral forwardWalk Map.empty).toOption.getD Map.empty

noncomputable def backwardMission : Mission ℝ := walkMission [Id.ofNat 2, Id.ofNat 3]

theorem backward_visits (v : Vertex ℝ) : backwardMap.Visits backwardMission v ↔ v = walkEnd ∨ v = walkStart := by
  rw [← stored_visits backwardMap.toPoseGraph backwardMission [walkEnd, walkStart] (.cons rfl (.cons rfl .nil))]
  simp

theorem backward_fits : backwardMap.FitsClock backwardMission := by
  intro v w first second
  rcases (backward_visits v).mp first with rfl | rfl
  all_goals rcases (backward_visits w).mp second with rfl | rfl
  all_goals decide

theorem backward_distinct : ∀ v w, backwardMap.Visits backwardMission v → backwardMap.Visits backwardMission w →
    v.time = w.time → v = w := by
  intro v w first second same
  rcases (backward_visits v).mp first with rfl | rfl
  · rcases (backward_visits w).mp second with rfl | rfl
    · rfl
    · exact absurd same (by decide)
  · rcases (backward_visits w).mp second with rfl | rfl
    · exact absurd same (by decide)
    · rfl

theorem backward_brings : ∀ operation ∈ backwardWalk, operation.Brings Pose.IsRigid fun _ => True := by
  simp only [backwardWalk, List.forall_mem_cons]
  exact ⟨⟨unit_identity, offset_rig_meets (fun _ => True) trivial⟩, at_position_rigid _, at_position_rigid _,
    List.forall_mem_nil _⟩

theorem backward_knots :
    ∃ _ : Spectral ℝ, (∀ operation ∈ backwardWalk, operation.Brings Pose.IsRigid fun _ => True) ∧
      Operation.run backwardWalk Map.empty = .ok backwardMap ∧ Operation.run forwardWalk Map.empty = .ok forwardMap ∧
      backwardMap.missions.get? (Id.ofNat 1) = some backwardMission ∧ backwardMap.FitsClock backwardMission ∧
      (∀ v w, backwardMap.Visits backwardMission v → backwardMap.Visits backwardMission w → v.time = w.time → v = w) ∧
      backwardMap.interpolate? (Id.ofNat 1) [⟨0⟩] = .ok (some [backwardMission.toGlobal * walkStart.state.pose]) ∧
      forwardMap.interpolate? (Id.ofNat 1) [⟨1⟩, ⟨4⟩] = backwardMap.interpolate? (Id.ofNat 1) [⟨1⟩, ⟨4⟩] := by
  let _ : Spectral ℝ := eigenSpectral
  obtain ⟨own, _, shuffled⟩ := interpolation_knots backwardWalk backwardMap backward_brings rfl (Id.ofNat 1)
    backwardMission rfl backward_fits backward_distinct
  refine ⟨eigenSpectral, backward_brings, rfl, rfl, rfl, backward_fits, backward_distinct,
    own walkStart ((backward_visits _).mpr (.inr rfl)), ?_⟩
  refine shuffled forwardWalk forwardMap (walkMission [Id.ofNat 3, Id.ofNat 2]) rfl rfl rfl (.swap _ _ _) ?_ _
  exact List.forall_mem_cons.mpr ⟨rfl, List.forall_mem_singleton.mpr rfl⟩

end LandmarkMap
