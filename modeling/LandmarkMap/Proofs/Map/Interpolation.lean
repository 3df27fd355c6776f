import Mathlib.Data.List.TakeWhile
import LandmarkMap.Proofs.Geometry.Interpolation
import LandmarkMap.Proofs.Map.Provenance
import LandmarkMap.Proofs.Map.TimeOrder
import LandmarkMap.Proofs.Triangulation.Recovery

set_option autoImplicit false

namespace LandmarkMap

section Samples

variable {α : Type} [Scalar α]

theorem at_between (before after : List (PoseSample α)) (a b : PoseSample α) (t : Timestamp)
    (earlier : ∀ s ∈ before ++ [a], s.time.precedes t = true) (later : b.time.precedes t = false) (gone whole : α)
    (first : t.since a.time = .ok gone) (second : b.time.since a.time = .ok whole) :
    PoseSample.at? (before ++ a :: b :: after) t = .ok (a.pose.interpolate b.pose (gone / whole)) := by
  have parts : before ++ a :: b :: after = (before ++ [a]) ++ b :: after := by rw [List.append_assoc, List.singleton_append]
  have past : ((before ++ [a]) ++ b :: after).takeWhile (fun s => s.time.precedes t) = before ++ [a] := by
    rw [List.takeWhile_append_of_pos earlier, List.takeWhile_cons_of_neg (by rw [later]; decide), List.append_nil]
  simp only [PoseSample.at?, parts, past, List.drop_left, List.getLast?_concat, first, second, ok_bind]
  rfl

theorem at_last (before : List (PoseSample α)) (last : PoseSample α) (t : Timestamp)
    (earlier : ∀ s ∈ before ++ [last], s.time.precedes t = true) :
    PoseSample.at? (before ++ [last]) t = .ok last.pose := by
  have past : (before ++ [last]).takeWhile (fun s => s.time.precedes t) = before ++ [last] :=
    List.takeWhile_eq_self_iff.mpr earlier
  simp only [PoseSample.at?, past, List.drop_length, List.getLast?_concat]
  rfl

theorem all_at (samples : List (PoseSample α)) (first last : Timestamp) (poseAt : Timestamp → Pose α)
    (each : ∀ t, first.precedes t = true ∧ t.precedes last = true → PoseSample.at? samples t = .ok (poseAt t))
    (times : List Timestamp) :
    PoseSample.allAt? samples first last times =
      .ok (if ∀ t ∈ times, first.precedes t = true ∧ t.precedes last = true then some (times.map poseAt) else none) := by
  induction times with
  | nil => rfl
  | cons t rest ih =>
      simp only [PoseSample.allAt?, List.forall_mem_cons]
      by_cases inside : first.precedes t = true ∧ t.precedes last = true
      · rw [if_neg (not_not.mpr inside), each t inside, ok_bind, ih, ok_bind]
        by_cases others : ∀ s ∈ rest, first.precedes s = true ∧ s.precedes last = true
        · rw [if_pos others, if_pos ⟨inside, others⟩]
          rfl
        · rw [if_neg others, if_neg fun all => others all.2]
          rfl
      · rw [if_pos inside, if_neg fun all => inside all.1]
        rfl

end Samples

-- The vertices at and before a time come first, and the time falls between the last of them and the next one.
theorem time_splits {α : Type} (ordered : List (Vertex α)) (t : Timestamp) (first : Vertex α)
    (head : ordered.head? = some first) (early : first.time.instant ≤ t.instant) :
    (∃ before a b after, ordered = before ++ a :: b :: after ∧
      (∀ v ∈ before ++ [a], v.time.instant ≤ t.instant) ∧ t.instant < b.time.instant) ∨
      ∃ before last, ordered = before ++ [last] ∧ ∀ v ∈ before ++ [last], v.time.instant ≤ t.instant := by
  induction ordered generalizing first with
  | nil => cases head
  | cons v rest ih =>
      cases head
      cases rest with
      | nil => exact .inr ⟨[], v, rfl, fun w member => List.mem_singleton.mp member ▸ early⟩
      | cons next others =>
          by_cases passed : next.time.instant ≤ t.instant
          · rcases ih next rfl passed with ⟨before, a, b, after, same, past, later⟩ | ⟨before, last, same, past⟩
            · exact .inl ⟨v :: before, a, b, after, congrArg (v :: ·) same, List.forall_mem_cons.mpr ⟨early, past⟩, later⟩
            · exact .inr ⟨v :: before, last, congrArg (v :: ·) same, List.forall_mem_cons.mpr ⟨early, past⟩⟩
          · exact .inl ⟨[], v, next, others, rfl, fun w member => List.mem_singleton.mp member ▸ early, not_le.mp passed⟩

theorem since_instants (a b : Timestamp) (order : b.instant ≤ a.instant)
    (near : a.instant - b.instant ≤ Int64.maxValue.toInt) :
    (a.since b : Except (Fault ℝ) ℝ) = .ok (((a.instant - b.instant : ℤ) : ℝ) / 1e9) := by
  have lowest : Int64.minValue.toInt ≤ 0 := by decide
  have fits : Int64.minValue.toInt ≤ a.instant - b.instant ∧ a.instant - b.instant ≤ Int64.maxValue.toInt :=
    ⟨lowest.trans (sub_nonneg.mpr order), near⟩
  have exact : (Word.subSigned a.nanos.toInt b.nanos.toInt : Except (Fault ℝ) ℤ) = .ok (a.instant - b.instant) :=
    if_pos fits
  rw [Timestamp.since, exact]
  rfl

-- The share of the way from one time to another that has gone by.
noncomputable def Timestamp.shareBetween (a b t : Timestamp) : ℝ :=
  ((t.instant - a.instant : ℤ) : ℝ) / ((b.instant - a.instant : ℤ) : ℝ)

-- Two vertices in a row, the times from the first on and up to the second, and the share that has gone by. The
-- seconds between the two, by which the code divides, are counted without overflow and are not zero.
structure Bracket (ordered : List (Vertex ℝ)) (t : Timestamp) (a b : Vertex ℝ) (share : ℝ) : Prop where
  consecutive : [a, b] <:+: ordered
  after : a.time.instant ≤ t.instant
  before : t.instant < b.time.instant
  divides : ∃ seconds : ℝ, b.time.since a.time = .ok seconds ∧ 0 < seconds
  ratio : share = a.time.shareBetween b.time t
  start : 0 ≤ share
  stop : share < 1

-- Positions on the straight line, rotations on the arc.
structure Blend (a b : Pose ℝ) (share : ℝ) (pose : Pose ℝ) : Prop where
  place : pose.position = a.position.scale (1 - share) + b.position.scale share
  turn : a.rotation.Between b.rotation share pose.rotation
  whole : pose = a.interpolate b share

-- The pose at one time, by the vertices in the order of time.
inductive Interpolated (ordered : List (Vertex ℝ)) (t : Timestamp) (pose : Pose ℝ) : Prop where
  | between (a b : Vertex ℝ) (share : ℝ) (bracket : Bracket ordered t a b share)
      (blend : Blend a.state.pose b.state.pose share pose)
  | last (v : Vertex ℝ) (final : ordered.getLast? = some v) (time : t = v.time) (same : pose = v.state.pose)

section Shares

variable (a b t : Timestamp) (after : a.instant ≤ t.instant) (before : t.instant < b.instant)

include after before

theorem share_nonneg : 0 ≤ a.shareBetween b t := by
  have gone : (0 : ℝ) ≤ ((t.instant - a.instant : ℤ) : ℝ) := by exact_mod_cast sub_nonneg.mpr after
  have whole : (0 : ℝ) ≤ ((b.instant - a.instant : ℤ) : ℝ) := by exact_mod_cast sub_nonneg.mpr (after.trans before.le)
  exact div_nonneg gone whole

theorem share_below_one : a.shareBetween b t < 1 := by
  have whole : (0 : ℝ) < ((b.instant - a.instant : ℤ) : ℝ) := by exact_mod_cast sub_pos.mpr (after.trans_lt before)
  rw [Timestamp.shareBetween, div_lt_one whole]
  exact_mod_cast sub_lt_sub_right before a.instant

theorem share_seconds (near : b.instant - a.instant ≤ Int64.maxValue.toInt) :
    ∃ gone seconds : ℝ, t.since a = .ok gone ∧ b.since a = .ok seconds ∧ 0 < seconds ∧
      gone / seconds = a.shareBetween b t := by
  have whole : (0 : ℝ) < ((b.instant - a.instant : ℤ) : ℝ) := by exact_mod_cast sub_pos.mpr (after.trans_lt before)
  refine ⟨_, _, since_instants t a after (le_trans (sub_le_sub_right before.le _) near),
    since_instants b a (after.trans before.le) near, div_pos whole (by norm_num), ?_⟩
  exact div_div_div_cancel_right₀ (by norm_num) _ _

end Shares

theorem interpolated_at (ordered : List (Vertex ℝ)) (t : Timestamp) (first last : Vertex ℝ)
    (head : ordered.head? = some first) (tail : ordered.getLast? = some last)
    (near : ∀ v ∈ ordered, ∀ w ∈ ordered, v.time.instant - w.time.instant ≤ Int64.maxValue.toInt)
    (early : first.time.instant ≤ t.instant) (late : t.instant ≤ last.time.instant) :
    ∃ pose, PoseSample.at? (ordered.map Vertex.sample) t = .ok pose ∧ Interpolated ordered t pose := by
  have past : ∀ vertices : List (Vertex ℝ), (∀ v ∈ vertices, v.time.instant ≤ t.instant) →
      ∀ s ∈ vertices.map Vertex.sample, s.time.precedes t = true := by
    intro vertices each s member
    obtain ⟨v, there, rfl⟩ := List.mem_map.mp member
    exact (precedes_instant _ _).mpr (each v there)
  rcases time_splits ordered t first head early with ⟨before, a, b, after, rfl, earlier, later⟩ | ⟨before, v, rfl, earlier⟩
  · have reached := earlier a (List.mem_append_right _ List.mem_cons_self)
    obtain ⟨gone, seconds, part, whole, positive, ratio⟩ := share_seconds a.time b.time t reached later
      (near b (by simp) a (by simp))
    have passed := past (before ++ [a]) earlier
    rw [List.map_append] at passed
    have answer := at_between (before.map Vertex.sample) (after.map Vertex.sample) a.sample b.sample t passed
      ((not_precedes_instant _ _).mpr later) gone seconds part whole
    rw [ratio] at answer
    refine ⟨_, by rw [List.map_append]; exact answer, .between a b (a.time.shareBetween b.time t) ?_ ?_⟩
    · exact ⟨⟨before, after, by simp⟩, reached, later, ⟨seconds, whole, positive⟩, rfl,
        share_nonneg _ _ _ reached later, share_below_one _ _ _ reached later⟩
    · exact ⟨interpolate_position _ _ _, interpolate_between _ _ _, rfl⟩
  · rw [List.getLast?_concat] at tail
    have same := Option.some.inj tail
    subst same
    have passed := past (before ++ [v]) earlier
    rw [List.map_append] at passed ⊢
    refine ⟨_, at_last _ _ t passed, .last v List.getLast?_concat ?_ rfl⟩
    exact instant_injective _ _ (le_antisymm late (earlier v (List.mem_append_right _ List.mem_cons_self)))

-- One pose for each time, or nothing at all as soon as one of the times lies outside.
structure Map.Answers (map : Map ℝ) (id : MissionId) (m : Mission ℝ) (poseAt : Timestamp → Pose ℝ) : Prop where
  inside : ∀ times, times ≠ [] → (∀ t ∈ times, map.Spans m t) →
    map.interpolate? id times = .ok (some (times.map fun t => m.toGlobal * poseAt t))
  outside : ∀ times, times ≠ [] → (∃ t ∈ times, ¬ map.Spans m t) → map.interpolate? id times = .ok none

theorem ordered_answers (map : Map ℝ) (id : MissionId) (m : Mission ℝ) (found : map.missions.get? id = some m)
    (added : List (Vertex ℝ)) (stored : map.Stores m.vertices added) (first last : Vertex ℝ)
    (head : (sortByTime added).head? = some first) (tail : (sortByTime added).getLast? = some last)
    (poseAt : Timestamp → Pose ℝ)
    (each : ∀ t, map.Spans m t → PoseSample.at? ((sortByTime added).map Vertex.sample) t = .ok (poseAt t)) :
    map.Answers id m poseAt := by
  have ends := spans_ends map.toPoseGraph m added _ stored (sorted_by_time added) first last head tail
  have read : ∀ times, times ≠ [] → map.interpolate? id times =
      .ok ((if ∀ t ∈ times, first.time.precedes t = true ∧ t.precedes last.time = true
        then some (times.map poseAt) else none).map (·.map (m.toGlobal * ·))) := by
    intro times asked
    rw [Map.interpolate?, require_bind _ _ _ asked, (mission_ok _ _ _).mpr found, ok_bind,
      samples_stored map m added stored, ok_bind, List.head?_map, List.getLast?_map, head, tail]
    have all := all_at ((sortByTime added).map Vertex.sample) first.time last.time poseAt
      (fun t inside => each t ((ends t).mpr inside)) times
    simp only [Option.map_some, Vertex.sample] at all ⊢
    rw [all]
    rfl
  constructor
  · intro times asked all
    rw [read times asked, if_pos fun t member => (ends t).mp (all t member), Option.map_some, List.map_map]
    rfl
  · rintro times asked ⟨t, member, beyond⟩
    rw [read times asked, if_neg fun all => beyond ((ends t).mpr (all t member)), Option.map_none]

theorem interpolate_answers (map : Map ℝ) (consistent : map.Consistent) (id : MissionId) (m : Mission ℝ)
    (found : map.missions.get? id = some m) (filled : m.vertices ≠ []) (near : map.FitsClock m) :
    ∃ (added : List (Vertex ℝ)) (poseAt : Timestamp → Pose ℝ), map.Stores m.vertices added ∧
      (∀ t, map.Spans m t → Interpolated (sortByTime added) t (poseAt t)) ∧ map.Answers id m poseAt := by
  obtain ⟨added, stored⟩ := listed_stored map.toPoseGraph id m (consistent.graph.missions id m found)
  have order := sorted_by_time added
  have visits := time_ordered_visits map.toPoseGraph m added _ stored order
  have length : (sortByTime added).length = m.vertices.length := order.same.length_eq.trans stored.length_eq.symm
  have nonempty : sortByTime added ≠ [] := by
    rw [← List.length_pos_iff, length]
    exact List.length_pos_iff.mpr filled
  have head := List.head?_eq_some_head nonempty
  have tail := List.getLast?_eq_some_getLast nonempty
  have each : ∀ t, ∃ pose, map.Spans m t →
      PoseSample.at? ((sortByTime added).map Vertex.sample) t = .ok pose ∧ Interpolated (sortByTime added) t pose := by
    intro t
    by_cases inside : map.Spans m t
    · obtain ⟨early, late⟩ := (spans_ends map.toPoseGraph m added _ stored order _ _ head tail t).mp inside
      obtain ⟨pose, answer⟩ := interpolated_at _ t _ _ head tail
        (fun v earlier w later => near v w ((visits v).mp earlier) ((visits w).mp later))
        ((precedes_instant _ _).mp early) ((precedes_instant _ _).mp late)
      exact ⟨pose, fun _ => answer⟩
    · exact ⟨Pose.identity, fun impossible => absurd impossible inside⟩
  choose poseAt answer using each
  exact ⟨added, poseAt, stored, fun t inside => (answer t inside).2,
    ordered_answers map id m found added stored _ _ head tail poseAt fun t inside => (answer t inside).1⟩

theorem interpolation_brackets [Spectral ℝ] (operations : List (Operation ℝ)) (map : Map ℝ)
    (done : Operation.run operations Map.empty = .ok map) (id : MissionId) (m : Mission ℝ)
    (found : map.missions.get? id = some m) (filled : m.vertices ≠ []) (near : map.FitsClock m) :
    ∃ (added ordered : List (Vertex ℝ)) (poseAt : Timestamp → Pose ℝ),
      map.Stores (Operation.insertionOrder operations id) added ∧ TimeOrdered added ordered ∧
      (∀ t, map.Spans m t → Interpolated ordered t (poseAt t)) ∧
      ∀ times, times ≠ [] →
        ¬ Faults (map.interpolate? id times) ∧
        (map.interpolate? id times = .ok none ↔ ∃ t ∈ times, ¬ map.Spans m t) ∧
        ((∀ t ∈ times, map.Spans m t) →
          map.interpolate? id times = .ok (some (times.map fun t => m.toGlobal * poseAt t))) := by
  have entered := run_vertex_order operations map done id
  rw [PoseGraph.verticesOf, found, Option.elim_some] at entered
  obtain ⟨added, poseAt, stored, bracketed, answers⟩ :=
    interpolate_answers map (run_consistent operations map done) id m found filled near
  refine ⟨added, sortByTime added, poseAt, entered ▸ stored, sorted_by_time added, bracketed, fun times asked => ?_⟩
  by_cases all : ∀ t ∈ times, map.Spans m t
  · rw [answers.inside times asked all]
    refine ⟨ok_never_faults _, ⟨fun impossible => ?_, ?_⟩, fun _ => rfl⟩
    · cases impossible
    · rintro ⟨t, member, beyond⟩
      exact absurd (all t member) beyond
  · have beyond : ∃ t ∈ times, ¬ map.Spans m t := by simpa using all
    rw [answers.outside times asked beyond]
    exact ⟨ok_never_faults _, ⟨fun _ => beyond, fun _ => rfl⟩, fun every => absurd every all⟩

-- A walk whose end is added first, and whose start is added twice.

noncomputable def passingVertex (id : VertexId) (time : Timestamp) (p : Vec3 ℝ) : Vertex ℝ :=
  ⟨id, Id.ofNat 1, time, BodyState.atPose (Pose.atPosition p), [Frame.empty]⟩

noncomputable def walkEnd : Vertex ℝ := passingVertex (Id.ofNat 2) ⟨4⟩ ⟨4, 0, 0⟩

noncomputable def walkStart : Vertex ℝ := passingVertex (Id.ofNat 3) ⟨0⟩ ⟨0, 0, 0⟩

noncomputable def walkTwin : Vertex ℝ := passingVertex (Id.ofNat 4) ⟨0⟩ ⟨1, 0, 0⟩

theorem walk_end_built : walkEnd.Built := .create (Id.ofNat 2) (Id.ofNat 1) ⟨4⟩ _ 1 _ rfl

theorem walk_start_built : walkStart.Built := .create (Id.ofNat 3) (Id.ofNat 1) ⟨0⟩ _ 1 _ rfl

theorem walk_twin_built : walkTwin.Built := .create (Id.ofNat 4) (Id.ofNat 1) ⟨0⟩ _ 1 _ rfl

noncomputable def walkMission (vertices : List VertexId) : Mission ℝ :=
  vertices.foldl (fun m id => m.addVertex id) ⟨Id.ofNat 1, Pose.atPosition ⟨0, 0, 5⟩, offsetRig, Id.invalid, []⟩

noncomputable def twinWalk : List (Operation ℝ) :=
  [.addMission (Id.ofNat 1) (Pose.atPosition ⟨0, 0, 5⟩) offsetRig, .addVertex walkEnd walk_end_built,
    .addVertex walkStart walk_start_built, .addVertex walkTwin walk_twin_built]

noncomputable def twinMap : Map ℝ := (@Operation.run ℝ _ eigenSpectral twinWalk Map.empty).toOption.getD Map.empty

noncomputable def twinMission : Mission ℝ := walkMission [Id.ofNat 2, Id.ofNat 3, Id.ofNat 4]

theorem twin_visits (v : Vertex ℝ) : twinMap.Visits twinMission v ↔ v = walkEnd ∨ v = walkStart ∨ v = walkTwin := by
  rw [← stored_visits twinMap.toPoseGraph twinMission [walkEnd, walkStart, walkTwin]
    (.cons rfl (.cons rfl (.cons rfl .nil)))]
  simp

theorem twin_fits : twinMap.FitsClock twinMission := by
  intro v w first second
  rcases (twin_visits v).mp first with rfl | rfl | rfl
  all_goals rcases (twin_visits w).mp second with rfl | rfl | rfl
  all_goals decide

theorem twin_spans : ∀ t ∈ [⟨4⟩, ⟨0⟩, ⟨1⟩], twinMap.Spans twinMission t := by
  intro t member
  refine ⟨⟨walkStart, (twin_visits _).mpr (.inr (.inl rfl)), ?_⟩, walkEnd, (twin_visits _).mpr (.inl rfl), ?_⟩
  all_goals revert t
  all_goals decide

theorem twin_brackets :
    ∃ (_ : Spectral ℝ) (added ordered : List (Vertex ℝ)) (poseAt : Timestamp → Pose ℝ),
      Operation.run twinWalk Map.empty = .ok twinMap ∧ twinMap.missions.get? (Id.ofNat 1) = some twinMission ∧
      twinMission.vertices ≠ [] ∧ twinMap.FitsClock twinMission ∧ TimeOrdered added ordered ∧
      Interpolated ordered ⟨1⟩ (poseAt ⟨1⟩) ∧
      twinMap.interpolate? (Id.ofNat 1) [⟨4⟩, ⟨0⟩, ⟨1⟩] =
        .ok (some ([⟨4⟩, ⟨0⟩, ⟨1⟩].map fun t => twinMission.toGlobal * poseAt t)) ∧
      twinMap.interpolate? (Id.ofNat 1) [⟨4⟩, ⟨5⟩] = .ok none := by
  let _ : Spectral ℝ := eigenSpectral
  have filled : twinMission.vertices ≠ [] := List.cons_ne_nil _ _
  obtain ⟨added, ordered, poseAt, _, order, bracketed, answers⟩ :=
    interpolation_brackets twinWalk twinMap rfl (Id.ofNat 1) twinMission rfl filled twin_fits
  have late : ¬ twinMap.Spans twinMission ⟨5⟩ := by
    rintro ⟨_, v, visited, after⟩
    rcases (twin_visits v).mp visited with rfl | rfl | rfl
    all_goals revert after
    all_goals decide
  exact ⟨eigenSpectral, added, ordered, poseAt, rfl, rfl, filled, twin_fits, order, bracketed _ (twin_spans ⟨1⟩ (by simp)),
    (answers _ (List.cons_ne_nil _ _)).2.2 twin_spans,
    (answers _ (List.cons_ne_nil _ _)).2.1.mpr ⟨⟨5⟩, by simp, late⟩⟩

end LandmarkMap
