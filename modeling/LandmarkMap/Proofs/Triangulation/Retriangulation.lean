import LandmarkMap.Proofs.ForkJoin
import LandmarkMap.Proofs.Map.Selection

set_option autoImplicit false

namespace LandmarkMap

namespace TriangulationSummary

variable {α : Type}

def zero : TriangulationSummary := ⟨0, 0, 0⟩

-- The counter that a thread raises after a triangulation.
def raise (s : TriangulationSummary) : TriangulationResult α → TriangulationSummary
  | .successful _ => { s with successful := s.successful + 1 }
  | .tooFewMeasurements => { s with tooFew := s.tooFew + 1 }
  | .unobservable => { s with unobservable := s.unobservable + 1 }

theorem raise_results (results : List (TriangulationResult α)) (result : TriangulationResult α) :
    (ofResults results).raise result = ofResults (results ++ [result]) := by
  cases result with
  | successful p => simp [raise, ofResults]
  | tooFewMeasurements => simp [raise, ofResults]
  | unobservable => simp [raise, ofResults]

theorem raised_results (results : List (TriangulationResult α)) :
    results.foldl raise zero = ofResults results := by
  induction results using List.reverseRecOn with
  | nil => rfl
  | append_singleton results result ih => rw [List.foldl_concat, ih, raise_results]

-- Counters do not tell in which order they were raised.
theorem results_perm (results others : List (TriangulationResult α)) (same : results.Perm others) :
    ofResults results = ofResults others := by
  simp only [ofResults, same.countP_eq]

theorem results_total (results : List (TriangulationResult α)) :
    (ofResults results).total = results.length := by
  induction results using List.reverseRecOn with
  | nil => rfl
  | append_singleton results result ih =>
      rw [List.length_append, List.length_singleton, ← ih, ← raise_results]
      cases result with
      | successful p => simp only [raise, total]; omega
      | tooFewMeasurements => simp only [raise, total]; omega
      | unobservable => simp only [raise, total]; omega

end TriangulationSummary

variable {α : Type} [Scalar α]

inductive Scope where
  | all
  | missions (ids : List MissionId)
  | mission (id : MissionId)
  | vertex (id : VertexId)

namespace Scope

def selects (map : Map α) : Scope → Landmark α → Bool
  | all, _ => true
  | missions ids, l => ids.contains l.mission
  | mission id, l => decide (l.mission = id)
  | vertex id, l =>
      match map.vertices.get? id with
      | some v => v.landmarks.contains l.id
      | none => false

def Present (map : Map α) : Scope → Prop
  | all => True
  | missions ids => ∀ id ∈ ids, map.missions.contains id = true
  | mission id => map.missions.contains id = true
  | vertex id => ∃ v, map.vertices.get? id = some v

def retriangulate [Spectral α] (map : Map α) (p : Parallelism) :
    Scope → Except (Fault α) (Map α × TriangulationSummary)
  | all => map.retriangulateAll p
  | missions ids => map.retriangulateMissions p ids
  | mission id => map.retriangulateMission p id
  | vertex id => map.retriangulateVertex p id

end Scope

variable [Spectral α]

theorem scope_retriangulate_ok (scope : Scope) (map : Map α) (p : Parallelism)
    (result : Map α × TriangulationSummary) :
    scope.retriangulate map p = .ok result ↔
      scope.Present map ∧ map.retriangulateSelected p (scope.selects map) = .ok result := by
  cases scope with
  | all => exact (iff_of_eq (true_and _)).symm
  | missions ids =>
      simp only [Scope.retriangulate, Map.retriangulateMissions, bind_ok, require_missions_ok]
      exact exists_const Unit
  | mission id =>
      have same : (fun l : Landmark α => [id].contains l.mission) = fun l => decide (l.mission = id) := by
        funext l
        simp
      simp only [Scope.retriangulate, Map.retriangulateMission, Map.retriangulateMissions, bind_ok,
        require_missions_ok, List.forall_mem_singleton, same]
      exact exists_const Unit
  | vertex id =>
      simp only [Scope.retriangulate, Map.retriangulateVertex, bind_ok, vertex_ok]
      constructor
      · rintro ⟨v, found, done⟩
        refine ⟨⟨v, found⟩, ?_⟩
        unfold Scope.selects
        simpa only [found] using done
      · rintro ⟨⟨v, found⟩, done⟩
        refine ⟨v, found, ?_⟩
        unfold Scope.selects at done
        simpa only [found] using done

def triangulationOf (g : PoseGraph α) (l : Landmark α) : Except (Fault α) (TriangulationResult α) := do
  let sightings ← sightingsOf g l
  Triangulation.linear sightings.bearings sightings.centers

-- What a triangulation makes of its landmark: only a success leaves a trace.
inductive Landmark.SettledBy (g : PoseGraph α) (l : Landmark α) :
    TriangulationResult α → Landmark α → Prop where
  | moved (p : Vec3 α) (toGlobal : Pose α) (own : g.missionToGlobal l.mission = .ok toGlobal) :
      SettledBy g l (.successful p)
        { l with position := some (toGlobal.applyInverse p), quality := .unknown }
  | tooFew : SettledBy g l .tooFewMeasurements l
  | unobservable : SettledBy g l .unobservable l

theorem retriangulate_ok (g : PoseGraph α) (l m : Landmark α) (result : TriangulationResult α) :
    retriangulate g l = .ok (m, result) ↔ triangulationOf g l = .ok result ∧ l.SettledBy g result m := by
  unfold retriangulate triangulationOf
  simp only [bind_ok]
  constructor
  · rintro ⟨sightings, seen, found, status, done⟩
    cases found with
    | successful p =>
        obtain ⟨toGlobal, own, done⟩ := (bind_ok _ _ _).mp done
        cases (pure_ok _ _).mp done
        exact ⟨⟨sightings, seen, status⟩, .moved p toGlobal own⟩
    | tooFewMeasurements =>
        cases (pure_ok _ _).mp done
        exact ⟨⟨sightings, seen, status⟩, .tooFew⟩
    | unobservable =>
        cases (pure_ok _ _).mp done
        exact ⟨⟨sightings, seen, status⟩, .unobservable⟩
  · rintro ⟨⟨sightings, seen, status⟩, settled⟩
    refine ⟨sightings, seen, result, status, ?_⟩
    cases settled with
    | moved p toGlobal own => exact (bind_ok _ _ _).mpr ⟨toGlobal, own, rfl⟩
    | tooFew => rfl
    | unobservable => rfl

-- The two ways in which a pass treats a landmark, with the status that it counts.
inductive Landmark.Treated (g : PoseGraph α) (selected : Landmark α → Bool) (l : Landmark α) :
    Landmark α × Option (TriangulationResult α) → Prop where
  | chosen (m : Landmark α) (result : TriangulationResult α) (here : selected l = true)
      (status : triangulationOf g l = .ok result) (settled : l.SettledBy g result m) :
      Treated g selected l (m, some result)
  | passed (elsewhere : selected l = false) : Treated g selected l (l, none)

theorem treated_ok (g : PoseGraph α) (selected : Landmark α → Bool) (l : Landmark α)
    (outcome : Landmark α × Option (TriangulationResult α)) :
    (if selected l then (fun (m, result) => (m, some result)) <$> retriangulate g l
      else .ok (l, none)) = .ok outcome ↔ l.Treated g selected outcome := by
  constructor
  · intro done
    cases chosen : selected l with
    | true =>
        rw [if_pos chosen] at done
        obtain ⟨⟨m, result⟩, found, rfl⟩ := (map_ok _ _ _).mp done
        obtain ⟨status, settled⟩ := (retriangulate_ok _ _ _ _).mp found
        exact .chosen m result chosen status settled
    | false =>
        rw [if_neg (Bool.eq_false_iff.mp chosen)] at done
        cases done
        exact .passed chosen
  · intro treated
    cases treated with
    | chosen m result here status settled =>
        rw [if_pos here]
        exact (map_ok _ _ _).mpr ⟨(m, result), (retriangulate_ok _ _ _ _).mpr ⟨status, settled⟩, rfl⟩
    | passed elsewhere => rw [if_neg (Bool.eq_false_iff.mp elsewhere)]

theorem retriangulated_treated (map after : Map α) (p : Parallelism) (selected : Landmark α → Bool)
    (summary : TriangulationSummary) :
    map.retriangulateSelected p selected = .ok (after, summary) ↔
      ∃ outcomes, List.Forall₂ (fun l outcome => l.Treated map.toPoseGraph selected outcome)
          map.landmarks outcomes ∧
        { map with landmarks := outcomes.map (·.1) } = after ∧
        TriangulationSummary.ofResults (outcomes.filterMap (·.2)) = summary := by
  simp only [retriangulate_selected_ok, treated_ok]

-- The statuses that are counted are those of the selected landmarks, each of them once.
theorem treated_statuses (g : PoseGraph α) (selected : Landmark α → Bool)
    (landmarks : List (Landmark α)) (outcomes : List (Landmark α × Option (TriangulationResult α)))
    (treated : List.Forall₂ (fun l outcome => l.Treated g selected outcome) landmarks outcomes) :
    List.Forall₂ (fun l result => triangulationOf g l = .ok result)
      (landmarks.filter selected) (outcomes.filterMap (·.2)) := by
  induction treated with
  | nil => exact .nil
  | cons first _ ih =>
      cases first with
      | chosen m result here status settled =>
          rw [List.filter_cons_of_pos here]
          exact .cons status ih
      | passed elsewhere =>
          rw [List.filter_cons_of_neg (Bool.eq_false_iff.mp elsewhere)]
          exact ih

structure Map.Retriangulated (selected : Landmark α → Bool) (before after : Map α)
    (summary : TriangulationSummary) : Prop where
  graph : after.toPoseGraph = before.toPoseGraph
  index : after.index = before.index
  landmarks : List.Forall₂ (fun l m =>
      if selected l then
        ∃ result, triangulationOf before.toPoseGraph l = .ok result ∧ l.SettledBy before.toPoseGraph result m
      else m = l)
    before.landmarks after.landmarks
  statuses : ∃ results, TriangulationSummary.ofResults results = summary ∧
    List.Forall₂ (fun l result => triangulationOf before.toPoseGraph l = .ok result)
      (before.landmarks.filter selected) results
  total : summary.total = before.landmarks.countP selected

theorem retriangulated_map (map after : Map α) (p : Parallelism) (selected : Landmark α → Bool)
    (summary : TriangulationSummary)
    (done : map.retriangulateSelected p selected = .ok (after, summary)) :
    map.Retriangulated selected after summary := by
  obtain ⟨outcomes, treated, rfl, rfl⟩ := (retriangulated_treated _ _ _ _ _).mp done
  have statuses := treated_statuses _ _ _ _ treated
  refine ⟨rfl, rfl, List.forall₂_map_right_iff.mpr (treated.imp ?_), ⟨_, rfl, statuses⟩, ?_⟩
  · intro l outcome became
    cases became with
    | chosen m result here status settled =>
        rw [if_pos here]
        exact ⟨result, status, settled⟩
    | passed elsewhere => rw [if_neg (Bool.eq_false_iff.mp elsewhere)]
  · rw [TriangulationSummary.results_total, ← statuses.length_eq, List.countP_eq_length_filter]

-- Triangulation by a crew, the threads of which share one counter for each status.
def retriangulationJob (map : Map α) (selected : Landmark α → Bool) :
    Job α (Landmark α) (Landmark α × Option (TriangulationResult α)) (TriangulationResult α) :=
  ⟨fun _ l =>
      if selected l then (fun (m, result) => (m, some result)) <$> retriangulate map.toPoseGraph l
      else .ok (l, none),
    fun outcome => outcome.2.toList⟩

theorem crew_retriangulates (map after : Map α) (p : Parallelism) (selected : Landmark α → Bool)
    (summary : TriangulationSummary) (threads : Nat) (always : Bool) (positive : 0 < threads)
    (done : map.retriangulateSelected p selected = .ok (after, summary)) :
    (retriangulationJob map selected).EverySchedule threads always map.landmarks fun final =>
      final.results.map (·.1) = after.landmarks ∧
        final.counted.foldl TriangulationSummary.raise .zero = summary := by
  obtain ⟨outcomes, each, rfl, rfl⟩ := (retriangulate_selected_ok _ _ _ _ _).mp done
  have serial : mapBatches threads always (retriangulationJob map selected).work map.landmarks =
      .ok outcomes := (map_batches_each _ _ _ _ positive).trans ((map_m_ok _ _ _).mpr each)
  refine every_schedule_weaken _ _ _ _ _ _ ?_ (every_schedule _ threads always _ _ positive serial)
  intro final delivered
  have raised : final.counted.Perm (outcomes.filterMap (·.2)) := by
    rw [List.filterMap_eq_flatMap_toList]
    exact delivered.counted
  refine ⟨congrArg _ delivered.results, ?_⟩
  rw [TriangulationSummary.raised_results, TriangulationSummary.results_perm _ _ raised]

theorem retriangulation_end_to_end (scope : Scope) (map after : Map α) (p : Parallelism)
    (summary : TriangulationSummary) (done : scope.retriangulate map p = .ok (after, summary)) :
    map.Retriangulated (scope.selects map) after summary ∧
      (∀ q, scope.retriangulate map q = .ok (after, summary)) ∧
      (∀ threads always, 0 < threads →
        (retriangulationJob map (scope.selects map)).EverySchedule threads always map.landmarks
          fun final => final.results.map (·.1) = after.landmarks ∧
            final.counted.foldl TriangulationSummary.raise .zero = summary) := by
  obtain ⟨present, selected⟩ := (scope_retriangulate_ok _ _ _ _).mp done
  refine ⟨retriangulated_map map after p _ summary selected, ?_, ?_⟩
  · intro q
    refine (scope_retriangulate_ok _ _ _ _).mpr ⟨present, ?_⟩
    exact (retriangulated_treated _ _ _ _ _).mpr ((retriangulated_treated _ _ _ _ _).mp selected)
  · intro threads always positive
    exact crew_retriangulates map after p _ summary threads always positive selected

-- One landmark of the first mission moves and loses its label. The other one is seen only once and
-- keeps its label, as does that of the second mission.
theorem first_mission_retriangulated :
    ∃ after, (Scope.mission (Id.ofNat 1)).retriangulate twoMissionsMap ⟨true, some 4, 1⟩ =
        .ok (after, ⟨1, 1, 0⟩) ∧
      after.landmarks.map (·.quality) = [.unknown, .good, .good] ∧
      twoMissionsMap.Retriangulated ((Scope.mission (Id.ofNat 1)).selects twoMissionsMap) after
        ⟨1, 1, 0⟩ ∧
      (Scope.mission (Id.ofNat 1)).retriangulate twoMissionsMap Parallelism.single =
        .ok (after, ⟨1, 1, 0⟩) := by
  have moved : (((Scope.mission (Id.ofNat 1)).retriangulate twoMissionsMap ⟨true, some 4, 1⟩).toOption.map
      fun (after, summary) => (after.landmarks.map (·.quality), summary)) =
        some ([.unknown, .good, .good], ⟨1, 1, 0⟩) := by
    decide +kernel
  obtain ⟨⟨after, summary⟩, done, seen⟩ := observed_ok _ _ _ moved
  obtain ⟨labels, rfl⟩ := Prod.mk.inj seen
  obtain ⟨retriangulated, again, _⟩ := retriangulation_end_to_end _ _ _ _ _ done
  exact ⟨after, done, labels, retriangulated, again Parallelism.single⟩

end LandmarkMap
