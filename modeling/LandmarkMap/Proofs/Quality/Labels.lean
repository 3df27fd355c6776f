import LandmarkMap.Proofs.Map.Consistency

set_option autoImplicit false

namespace LandmarkMap

variable {α : Type} [Scalar α]

-- The passes that label by evaluation only, and all by the same thresholds.
def Pass.LabelsBy (c : QualityConfig α) (pass : Pass α) : Prop :=
  pass.given? = none ∧ ∀ config, pass.config? = some config → config = c

-- A label that was not taken off is the one that evaluation would find now.
def Landmark.UpToDate (g : PoseGraph α) (c : QualityConfig α) (l : Landmark α) : Prop :=
  l.quality = .unknown ∨ (l.isTriangulated = true ∧ evaluateQuality g c l = .ok l.quality)

theorem evaluate_ignores_label (g : PoseGraph α) (c : QualityConfig α) (l : Landmark α)
    (quality : Quality) : evaluateQuality g c (l.label quality) = evaluateQuality g c l := rfl

theorem evaluated_triangulated (g : PoseGraph α) (c : QualityConfig α) (l : Landmark α)
    (verdict : Quality) (found : evaluateQuality g c l = .ok verdict) : l.isTriangulated = true := by
  obtain ⟨metrics, computed, _⟩ := (bind_ok _ _ _).mp found
  obtain ⟨_, computed⟩ := (require_bind_ok _ _ _ _).mp computed
  exact ((require_bind_ok _ _ _ _).mp computed).1

-- Whatever moves a landmark takes its label off, and whatever labels it evaluates it first.
theorem change_keeps_up_to_date (pass : Pass α) (g : PoseGraph α) (c : QualityConfig α)
    (l m : Landmark α) (labels : pass.LabelsBy c) (fresh : l.UpToDate g c)
    (change : pass.Changes g l m) : m.UpToDate g c := by
  cases change with
  | same => exact fresh
  | moved position => exact .inl rfl
  | cleared => exact .inl rfl
  | judged config verdict asked found =>
      cases labels.2 config asked
      exact .inr ⟨evaluated_triangulated g c l verdict found,
        (evaluate_ignores_label g c l verdict).trans found⟩
  | given quality asked => cases labels.1.symm.trans asked

theorem pass_keeps_up_to_date [Spectral α] (pass : Pass α) (c : QualityConfig α)
    (before after : Map α) (labels : pass.LabelsBy c)
    (fresh : ∀ l ∈ before.landmarks, l.UpToDate before.toPoseGraph c)
    (done : pass.apply before = .ok after) :
    ∀ m ∈ after.landmarks, m.UpToDate after.toPoseGraph c := by
  obtain ⟨graph, _, landmarks⟩ := pass_effect pass before after done
  intro m member
  obtain ⟨l, there, change⟩ := related_member _ _ _ landmarks m member
  rw [graph]
  exact change_keeps_up_to_date pass before.toPoseGraph c l m labels (fresh l there) change

theorem up_to_date_well_constrained (g : PoseGraph α) (c : QualityConfig α) (l : Landmark α)
    (fresh : l.UpToDate g c) : isWellConstrained g c l false = isWellConstrained g c l true := by
  rcases fresh with unknown | ⟨_, found⟩
  · simp [isWellConstrained, unknown]
  · by_cases unknown : l.quality = .unknown
    · simp [isWellConstrained, unknown]
    · simp only [isWellConstrained, found, unknown, ne_eq, not_false_eq_true, and_true, if_true]
      rfl

theorem pass_keeps_observations [Spectral α] (pass : Pass α) (before after : Map α)
    (done : pass.apply before = .ok after) :
    after.landmarks.map (·.observations) = before.landmarks.map (·.observations) :=
  related_map _ _ _ _ (fun l m change => (changes_keep pass _ l m change).2.2)
    (pass_effect pass before after done).landmarks

-- The run keeps the graph and the observations, so that a label found once stays the right one.
theorem labels_never_stale [Spectral α] (c : QualityConfig α) (start map : Map α)
    (passes : List (Pass α)) (labels : ∀ pass ∈ passes, pass.LabelsBy c)
    (unlabelled : ∀ l ∈ start.landmarks, l.quality = .unknown)
    (done : Pass.run passes start = .ok map) :
    map.toPoseGraph = start.toPoseGraph ∧
      map.landmarks.map (·.observations) = start.landmarks.map (·.observations) ∧
      ∀ l ∈ map.landmarks, l.UpToDate map.toPoseGraph c ∧
        isWellConstrained map.toPoseGraph c l false = isWellConstrained map.toPoseGraph c l true := by
  have kept : map.toPoseGraph = start.toPoseGraph ∧
      map.landmarks.map (·.observations) = start.landmarks.map (·.observations) ∧
      ∀ l ∈ map.landmarks, l.UpToDate map.toPoseGraph c := by
    refine fold_keeps _ (fun history map => (∀ pass ∈ history, pass.LabelsBy c) →
      map.toPoseGraph = start.toPoseGraph ∧
        map.landmarks.map (·.observations) = start.landmarks.map (·.observations) ∧
        ∀ l ∈ map.landmarks, l.UpToDate map.toPoseGraph c)
      start (fun _ => ⟨rfl, rfl, fun l member => .inl (unlabelled l member)⟩) ?_ passes map done labels
    intro history pass before after sofar stepped allowed
    obtain ⟨graph, observations, fresh⟩ :=
      sofar fun earlier member => allowed earlier (List.mem_append_left _ member)
    have now := allowed pass (List.mem_append_right _ List.mem_cons_self)
    exact ⟨(pass_effect pass before after stepped).graph.trans graph,
      (pass_keeps_observations pass before after stepped).trans observations,
      pass_keeps_up_to_date pass c before after now fresh stepped⟩
  obtain ⟨graph, observations, fresh⟩ := kept
  refine ⟨graph, observations, ?_⟩
  intro l member
  exact ⟨fresh l member, up_to_date_well_constrained _ c l (fresh l member)⟩

def twoViewsMap : Map Float := (Operation.run twoViews Map.empty).toOption.getD Map.empty

-- More observers than the two that there are.
def threeObservers : QualityConfig Float := ⟨5, 3, 50, 0.1⟩

def judgeMoveJudge : List (Pass Float) :=
  [.evaluateMissions threeObservers ⟨true, some 4, 1⟩ [Id.ofNat 1], .setPosition (Id.ofNat 5) ⟨0, 0, 8⟩,
    .evaluateAll threeObservers ⟨false, none, 8⟩]

theorem moved_label_fresh :
    ∃ map, Pass.run judgeMoveJudge twoViewsMap = .ok map ∧ map.landmarks.map (·.quality) = [.bad] ∧
      ∀ l ∈ map.landmarks, l.UpToDate map.toPoseGraph threeObservers := by
  have judged : ((Pass.run judgeMoveJudge twoViewsMap).toOption.map fun map =>
      map.landmarks.map (·.quality)) = some [.bad] := by decide +kernel
  cases done : Pass.run judgeMoveJudge twoViewsMap with
  | error fault =>
      rw [done] at judged
      cases judged
  | ok map =>
      rw [done] at judged
      have labels : ∀ pass ∈ judgeMoveJudge, pass.LabelsBy threeObservers := by
        simp [judgeMoveJudge, Pass.LabelsBy, Pass.given?, Pass.config?]
      have fresh := labels_never_stale threeObservers twoViewsMap map judgeMoveJudge labels
        (by decide +kernel) done
      exact ⟨map, rfl, Option.some.inj judged, fun l member => (fresh.2.2 l member).1⟩

end LandmarkMap
