import LandmarkMap.Proofs.ForkJoin
import LandmarkMap.Proofs.Map.Selection
import LandmarkMap.Proofs.Quality.Labels

set_option autoImplicit false

namespace LandmarkMap

variable {α : Type}

-- How many of the landmarks of some missions carry a label.
def labelCount (ids : List MissionId) (quality : Quality) (landmarks : List (Landmark α)) : Nat :=
  landmarks.countP fun l => decide (l.mission ∈ ids ∧ l.quality = quality)

theorem summary_counts (ids : List MissionId) (landmarks : List (Landmark α)) :
    QualitySummary.ofLandmarks (landmarks.filter fun l => ids.contains l.mission) =
      ⟨labelCount ids .unknown landmarks, labelCount ids .good landmarks,
        labelCount ids .bad landmarks⟩ := by
  have each : ∀ quality, (landmarks.filter fun l => ids.contains l.mission).countP
      (fun l => decide (l.quality = quality)) = labelCount ids quality landmarks := by
    intro quality
    rw [List.countP_filter, labelCount]
    congr 1
    funext l
    simp [and_comm]
  simp only [QualitySummary.ofLandmarks, each]

theorem one_label (quality : Quality) :
    (if quality = .unknown then 1 else 0) + (if quality = .good then 1 else 0) +
      (if quality = .bad then 1 else 0) = 1 := by
  cases quality <;> rfl

theorem labels_exhaust (ids : List MissionId) (landmarks : List (Landmark α)) :
    labelCount ids .unknown landmarks + labelCount ids .good landmarks + labelCount ids .bad landmarks =
      landmarks.countP fun l => decide (l.mission ∈ ids) := by
  induction landmarks with
  | nil => rfl
  | cons l rest ih =>
      have first : ∀ quality, labelCount ids quality (l :: rest) = labelCount ids quality rest +
          if l.mission ∈ ids ∧ l.quality = quality then 1 else 0 := by
        intro quality
        simp only [labelCount, List.countP_cons, decide_eq_true_eq]
      rw [first, first, first, List.countP_cons, ← ih]
      by_cases listed : l.mission ∈ ids
      · have one := one_label l.quality
        simp only [listed, true_and, decide_true, if_true]
        omega
      · simp [listed]

variable [Scalar α]

def judge (g : PoseGraph α) (c : QualityConfig α) (l : Landmark α) :
    Except (Fault α) (Landmark α) := do
  return l.label (← evaluateQuality g c l)

theorem judge_ok (g : PoseGraph α) (c : QualityConfig α) (l m : Landmark α) :
    judge g c l = .ok m ↔ ∃ verdict, evaluateQuality g c l = .ok verdict ∧ l.label verdict = m := by
  rw [judge, bind_ok]
  simp only [pure_ok]

theorem classify_known (metrics : QualityMetrics α) (c : QualityConfig α) :
    metrics.classify c ≠ .unknown := by
  unfold QualityMetrics.classify
  split
  · exact fun same => by cases same
  · split
    · exact fun same => by cases same
    · split
      · exact fun same => by cases same
      · exact fun same => by cases same

theorem evaluated_known (g : PoseGraph α) (c : QualityConfig α) (l : Landmark α) (verdict : Quality)
    (found : evaluateQuality g c l = .ok verdict) : verdict ≠ .unknown := by
  obtain ⟨metrics, _, done⟩ := (bind_ok _ _ _).mp found
  exact (pure_ok _ _).mp done ▸ classify_known metrics c

theorem evaluate_missions_ok (map after : Map α) (c : QualityConfig α) (p : Parallelism)
    (ids : List MissionId) (summary : QualitySummary) :
    map.evaluateMissions c p ids = .ok (after, summary) ↔
      (∀ id ∈ ids, map.missions.contains id = true) ∧
        LandmarksRelated (Rewrites (fun l => ids.contains l.mission) (judge map.toPoseGraph c)) map after ∧
        QualitySummary.ofLandmarks (after.landmarks.filter fun l => ids.contains l.mission) = summary := by
  rw [Map.evaluateMissions, bind_ok]
  simp only [require_missions_ok, bind_ok, pure_ok, Prod.mk.injEq]
  constructor
  · rintro ⟨_, present, labelled, changed, rfl, counted⟩
    exact ⟨present, (change_selected_related _ _ p _ _).mp changed, counted⟩
  · rintro ⟨present, related, counted⟩
    exact ⟨(), present, after, (change_selected_related _ _ p _ _).mpr related, rfl, counted⟩

-- A landmark of a listed mission gets the label that it deserves, and is otherwise as before; all
-- other landmarks stay.
def Landmark.JudgedIn (g : PoseGraph α) (c : QualityConfig α) (ids : List MissionId)
    (l m : Landmark α) : Prop :=
  if l.mission ∈ ids then
    ∃ verdict, evaluateQuality g c l = .ok verdict ∧ verdict ≠ .unknown ∧ m = { l with quality := verdict }
  else m = l

theorem rewritten_judged (g : PoseGraph α) (c : QualityConfig α) (ids : List MissionId)
    (l m : Landmark α)
    (rewritten : Rewrites (fun l => ids.contains l.mission) (judge g c) l m) :
    l.JudgedIn g c ids m := by
  unfold Landmark.JudgedIn
  by_cases listed : l.mission ∈ ids
  · have judged := (rewrites_chosen _ _ l m (by simpa using listed)).mp rewritten
    obtain ⟨verdict, found, rfl⟩ := (judge_ok g c l m).mp judged
    rw [if_pos listed]
    exact ⟨verdict, found, evaluated_known g c l verdict found, rfl⟩
  · rw [if_neg listed]
    exact (rewrites_other _ _ _ _ (by simpa using listed)).mp rewritten

theorem judged_mission (g : PoseGraph α) (c : QualityConfig α) (ids : List MissionId)
    (l m : Landmark α) (judged : l.JudgedIn g c ids m) : m.mission = l.mission := by
  unfold Landmark.JudgedIn at judged
  split at judged
  · obtain ⟨_, _, _, rfl⟩ := judged
    rfl
  · rw [judged]

structure Map.Evaluated (c : QualityConfig α) (ids : List MissionId) (before after : Map α)
    (summary : QualitySummary) : Prop where
  graph : after.toPoseGraph = before.toPoseGraph
  index : after.index = before.index
  landmarks : List.Forall₂ (fun l m => l.JudgedIn before.toPoseGraph c ids m) before.landmarks after.landmarks
  unknown : summary.unknown = 0
  good : summary.good = labelCount ids .good after.landmarks
  bad : summary.bad = labelCount ids .bad after.landmarks
  total : summary.good + summary.bad = before.landmarks.countP fun l => decide (l.mission ∈ ids)

theorem evaluated_map (map after : Map α) (c : QualityConfig α) (p : Parallelism)
    (ids : List MissionId) (summary : QualitySummary)
    (done : map.evaluateMissions c p ids = .ok (after, summary)) :
    map.Evaluated c ids after summary := by
  obtain ⟨_, ⟨graph, index, each⟩, counted⟩ := (evaluate_missions_ok _ _ _ _ _ _).mp done
  have judged := each.imp fun l m => rewritten_judged map.toPoseGraph c ids l m
  have none : labelCount ids .unknown after.landmarks = 0 := by
    rw [labelCount, List.countP_eq_zero]
    intro m member unlabelled
    obtain ⟨listed, unknown⟩ := of_decide_eq_true unlabelled
    obtain ⟨l, _, became⟩ := related_member _ _ _ judged m member
    rw [judged_mission map.toPoseGraph c ids l m became] at listed
    rw [Landmark.JudgedIn, if_pos listed] at became
    obtain ⟨verdict, _, known, rfl⟩ := became
    exact known unknown
  have missions : after.landmarks.map (·.mission) = map.landmarks.map (·.mission) :=
    related_map _ _ _ _ (judged_mission map.toPoseGraph c ids) judged
  have total := labels_exhaust ids after.landmarks
  rw [none, Nat.zero_add] at total
  rw [summary_counts] at counted
  subst counted
  refine ⟨graph, index, judged, none, rfl, rfl, total.trans ?_⟩
  have counts := congrArg (List.countP fun id => decide (id ∈ ids)) missions
  simpa only [List.countP_map, Function.comp_def] using counts

-- Labelling by a crew: no counters are shared but that of the progress.
def evaluationJob (map : Map α) (c : QualityConfig α) (ids : List MissionId) :
    Job α (Landmark α) (Landmark α) Empty :=
  ⟨fun _ l => if ids.contains l.mission then judge map.toPoseGraph c l else .ok l, fun _ => []⟩

theorem evaluation_end_to_end (map after : Map α) (c : QualityConfig α) (p : Parallelism)
    (ids : List MissionId) (summary : QualitySummary)
    (done : map.evaluateMissions c p ids = .ok (after, summary)) :
    map.Evaluated c ids after summary ∧
      (∀ q ids', (∀ id, id ∈ ids' ↔ id ∈ ids) →
        map.evaluateMissions c q ids' = .ok (after, summary)) ∧
      (∀ threads always, 0 < threads → (evaluationJob map c ids).EverySchedule threads always
        map.landmarks fun final => final.results = after.landmarks) := by
  obtain ⟨present, related, counted⟩ := (evaluate_missions_ok _ _ _ _ _ _).mp done
  refine ⟨evaluated_map map after c p ids summary done, ?_, ?_⟩
  · intro q ids' same
    refine (evaluate_missions_ok _ _ _ _ _ _).mpr ⟨?_, ?_, ?_⟩
    · intro id member
      exact present id ((same id).mp member)
    · simpa only [same_missions ids ids' same] using related
    · simpa only [same_missions ids ids' same] using counted
  · intro threads always positive
    have serial : mapBatches threads always (evaluationJob map c ids).work map.landmarks =
        .ok after.landmarks :=
      (map_batches_each _ _ _ _ positive).trans ((map_m_ok _ _ _).mpr related.landmarks)
    exact every_schedule_weaken _ _ _ _ _ _ (fun _ delivered => delivered.results)
      (every_schedule _ threads always _ _ positive serial)

-- Listing the first mission twice judges its two landmarks and spares that of the second.
theorem first_mission_judged :
    ∃ after, twoMissionsMap.evaluateMissions threeObservers ⟨true, some 4, 1⟩ [Id.ofNat 1, Id.ofNat 1] =
        .ok (after, ⟨0, 0, 2⟩) ∧
      after.landmarks.map (·.quality) = [.bad, .bad, .good] ∧
      twoMissionsMap.Evaluated threeObservers [Id.ofNat 1, Id.ofNat 1] after ⟨0, 0, 2⟩ ∧
      twoMissionsMap.evaluateMissions threeObservers Parallelism.single [Id.ofNat 1] =
        .ok (after, ⟨0, 0, 2⟩) := by
  have judged : ((twoMissionsMap.evaluateMissions threeObservers ⟨true, some 4, 1⟩
      [Id.ofNat 1, Id.ofNat 1]).toOption.map fun (after, summary) =>
        (after.landmarks.map (·.quality), summary)) = some ([.bad, .bad, .good], ⟨0, 0, 2⟩) := by
    decide +kernel
  obtain ⟨⟨after, summary⟩, done, seen⟩ := observed_ok _ _ _ judged
  obtain ⟨labels, rfl⟩ := Prod.mk.inj seen
  obtain ⟨evaluated, again, _⟩ := evaluation_end_to_end _ _ _ _ _ _ done
  exact ⟨after, done, labels, evaluated, again Parallelism.single [Id.ofNat 1] (by simp)⟩

end LandmarkMap
