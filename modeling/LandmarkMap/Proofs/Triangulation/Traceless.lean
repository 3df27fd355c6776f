import LandmarkMap.Proofs.Triangulation.Retriangulation

set_option autoImplicit false

namespace LandmarkMap

variable {α : Type}

-- Two landmarks that differ at most in their position and label.
structure Landmark.Alike (l m : Landmark α) : Prop where
  id : m.id = l.id
  mission : m.mission = l.mission
  observations : m.observations = l.observations

theorem alike_same (l : Landmark α) : l.Alike l := ⟨rfl, rfl, rfl⟩

theorem alike_trans (l m n : Landmark α) (first : l.Alike m) (second : m.Alike n) : l.Alike n :=
  ⟨second.id.trans first.id, second.mission.trans first.mission,
    second.observations.trans first.observations⟩

variable [Scalar α]

theorem settled_alike (g : PoseGraph α) (l m : Landmark α) (result : TriangulationResult α)
    (settled : l.SettledBy g result m) : l.Alike m := by
  cases settled with
  | moved p toGlobal own => exact ⟨rfl, rfl, rfl⟩
  | tooFew => exact ⟨rfl, rfl, rfl⟩
  | unobservable => exact ⟨rfl, rfl, rfl⟩

theorem settled_again (g : PoseGraph α) (l m : Landmark α) (result : TriangulationResult α)
    (settled : l.SettledBy g result m) : m.SettledBy g result m := by
  cases settled with
  | moved p toGlobal own => exact .moved p toGlobal own
  | tooFew => exact .tooFew
  | unobservable => exact .unobservable

-- Where the triangulation succeeds, nothing of the old position and label is left.
theorem settled_from_alike (g : PoseGraph α) (l m settled : Landmark α)
    (result : TriangulationResult α) (alike : l.Alike m) (here : l.SettledBy g result settled) :
    ∃ other, m.SettledBy g result other ∧ ∀ p, result = .successful p → other = settled := by
  cases here with
  | moved p toGlobal own =>
      refine ⟨_, .moved p toGlobal (alike.mission ▸ own), fun _ _ => ?_⟩
      rw [Landmark.mk.injEq]
      exact ⟨alike.id, alike.mission, rfl, rfl, alike.observations⟩
  | tooFew => exact ⟨m, .tooFew, fun _ success => by cases success⟩
  | unobservable => exact ⟨m, .unobservable, fun _ success => by cases success⟩

theorem selects_alike (scope : Scope) (map : Map α) (l m : Landmark α) (alike : l.Alike m) :
    scope.selects map m = scope.selects map l := by
  cases scope with
  | all => rfl
  | missions ids => simp only [Scope.selects, alike.mission]
  | mission id => simp only [Scope.selects, alike.mission]
  | vertex id => simp only [Scope.selects, alike.id]

theorem scope_same_graph (scope : Scope) (map other : Map α)
    (graph : other.toPoseGraph = map.toPoseGraph) :
    (scope.selects other : Landmark α → Bool) = scope.selects map ∧
      (scope.Present other ↔ scope.Present map) := by
  obtain ⟨poses, landmarks, index⟩ := other
  dsimp only at graph
  subst graph
  cases scope with
  | all => exact ⟨rfl, .rfl⟩
  | missions ids => exact ⟨rfl, .rfl⟩
  | mission id => exact ⟨rfl, .rfl⟩
  | vertex id => exact ⟨rfl, .rfl⟩

variable [Spectral α]

theorem triangulation_alike (g : PoseGraph α) (l m : Landmark α) (alike : l.Alike m) :
    triangulationOf g m = triangulationOf g l := by
  unfold triangulationOf sightingsOf
  rw [alike.observations]

theorem treated_again (g : PoseGraph α) (scope : Scope) (map : Map α) (l : Landmark α)
    (outcome : Landmark α × Option (TriangulationResult α))
    (treated : l.Treated g (scope.selects map) outcome) :
    outcome.1.Treated g (scope.selects map) outcome := by
  cases treated with
  | chosen m result here status settled =>
      have alike := settled_alike g l m result settled
      refine .chosen m result ((selects_alike scope map l m alike).trans here) ?_ ?_
      · exact (triangulation_alike g l m alike).trans status
      · exact settled_again g l m result settled
  | passed elsewhere => exact .passed elsewhere

theorem retriangulated_again (scope : Scope) (map after : Map α) (p q : Parallelism)
    (summary : TriangulationSummary) (done : scope.retriangulate map p = .ok (after, summary)) :
    scope.retriangulate after q = .ok (after, summary) := by
  obtain ⟨present, selected⟩ := (scope_retriangulate_ok _ _ _ _).mp done
  obtain ⟨outcomes, treated, rfl, counted⟩ := (retriangulated_treated _ _ _ _ _).mp selected
  obtain ⟨selects, known⟩ := scope_same_graph scope map { map with landmarks := outcomes.map (·.1) } rfl
  refine (scope_retriangulate_ok _ _ _ _).mpr ⟨known.mpr present, ?_⟩
  refine (retriangulated_treated _ _ _ _ _).mpr ⟨outcomes, ?_, rfl, counted⟩
  rw [selects, List.forall₂_map_left_iff, List.forall₂_same]
  intro outcome member
  obtain ⟨l, _, became⟩ := related_member _ _ _ treated outcome member
  exact treated_again _ scope map l outcome became

-- Outcomes with the same status, and with the same landmark after a success.
structure SameSuccess (first second : Landmark α × Option (TriangulationResult α)) : Prop where
  status : second.2 = first.2
  landmark : ∀ p, first.2 = some (.successful p) → second.1 = first.1

theorem treated_from_alike (g : PoseGraph α) (scope : Scope) (map : Map α) (l m : Landmark α)
    (outcome : Landmark α × Option (TriangulationResult α)) (alike : l.Alike m)
    (treated : l.Treated g (scope.selects map) outcome) :
    ∃ other, SameSuccess outcome other ∧ m.Treated g (scope.selects map) other := by
  have selected := selects_alike scope map l m alike
  cases treated with
  | chosen settled result here status became =>
      obtain ⟨other, too, same⟩ := settled_from_alike g l m settled result alike became
      refine ⟨(other, some result), ⟨rfl, ?_⟩, .chosen other result (selected.trans here) ?_ too⟩
      · intro p success
        exact same p (Option.some.inj success)
      · exact (triangulation_alike g l m alike).trans status
  | passed elsewhere =>
      refine ⟨(m, none), ⟨rfl, ?_⟩, .passed (selected.trans elsewhere)⟩
      intro p success
      cases success

theorem all_treated_from_alike (g : PoseGraph α) (scope : Scope) (map : Map α)
    (landmarks others : List (Landmark α))
    (outcomes : List (Landmark α × Option (TriangulationResult α)))
    (alike : List.Forall₂ Landmark.Alike landmarks others)
    (treated : List.Forall₂ (fun l outcome => l.Treated g (scope.selects map) outcome) landmarks outcomes) :
    ∃ outcomes', List.Forall₂ SameSuccess outcomes outcomes' ∧
      List.Forall₂ (fun m outcome => m.Treated g (scope.selects map) outcome) others outcomes' := by
  have across := (related_compose _ _ _ _).mp ⟨landmarks, treated.flip, alike⟩
  have both : List.Forall₂ (fun outcome m => ∃ other, SameSuccess outcome other ∧
      m.Treated g (scope.selects map) other) outcomes others := by
    refine across.imp ?_
    rintro outcome m ⟨l, became, like⟩
    exact treated_from_alike g scope map l m outcome like became
  obtain ⟨outcomes', same, too⟩ :=
    (related_compose _ (fun outcome (m : Landmark α) => m.Treated g (scope.selects map) outcome) _ _).mpr both
  exact ⟨outcomes', same, too.flip⟩

-- Retriangulating the second map ends with the same counts, and with the same landmark wherever one
-- that is selected is triangulated.
def Map.Retraces (scope : Scope) (map other : Map α) : Prop :=
  ∀ (p q : Parallelism) (after : Map α) (summary : TriangulationSummary),
    scope.retriangulate map p = .ok (after, summary) →
    ∃ after' : Map α, scope.retriangulate other q = .ok (after', summary) ∧
      ∀ (i : Nat) (l : Landmark α) (position : Vec3 α), map.landmarks[i]? = some l →
        scope.selects map l = true → triangulationOf map.toPoseGraph l = .ok (.successful position) →
        ∃ m, after.landmarks[i]? = some m ∧ after'.landmarks[i]? = some m

theorem alike_retraces (scope : Scope) (map other : Map α)
    (alike : LandmarksRelated Landmark.Alike map other) : map.Retraces scope other := by
  intro p q after summary done
  obtain ⟨present, selected⟩ := (scope_retriangulate_ok _ _ _ _).mp done
  obtain ⟨outcomes, treated, rfl, rfl⟩ := (retriangulated_treated _ _ _ _ _).mp selected
  obtain ⟨selects, known⟩ := scope_same_graph scope map other alike.graph
  obtain ⟨outcomes', same, too⟩ :=
    all_treated_from_alike map.toPoseGraph scope map _ _ outcomes alike.landmarks treated
  have statuses : outcomes'.map (·.2) = outcomes.map (·.2) :=
    related_map _ _ _ _ (fun _ _ each => each.status) same
  refine ⟨{ other with landmarks := outcomes'.map (·.1) }, ?_, ?_⟩
  · refine (scope_retriangulate_ok _ _ _ _).mpr ⟨known.mpr present, ?_⟩
    refine (retriangulated_treated _ _ _ _ _).mpr ⟨outcomes', ?_, rfl, ?_⟩
    · rw [selects, alike.graph]
      exact too
    · have counted := congrArg (fun s => TriangulationSummary.ofResults (s.filterMap id)) statuses
      simpa only [List.filterMap_map, Function.id_comp] using counted
  · intro i l position found here success
    obtain ⟨outcome, there, became⟩ := related_found _ _ _ treated i l found
    obtain ⟨outcome', there', each⟩ := related_found _ _ _ same i outcome there
    refine ⟨outcome.1, by simp only [List.getElem?_map, there, Option.map_some], ?_⟩
    cases became with
    | chosen m result _ status settled =>
        cases status.symm.trans success
        simp only [List.getElem?_map, there', Option.map_some, each.landmark position rfl]
    | passed elsewhere => cases here.symm.trans elsewhere

theorem pass_alike (pass : Pass α) (before after : Map α) (done : pass.apply before = .ok after) :
    LandmarksRelated Landmark.Alike before after := by
  obtain ⟨graph, index, each⟩ := pass_effect pass before after done
  refine ⟨graph, index, each.imp ?_⟩
  intro l m change
  obtain ⟨id, mission, observations⟩ := changes_keep pass _ l m change
  exact ⟨id, mission, observations⟩

theorem run_alike (passes : List (Pass α)) (before after : Map α)
    (done : Pass.run passes before = .ok after) : LandmarksRelated Landmark.Alike before after := by
  refine fold_keeps _ (fun _ map => LandmarksRelated Landmark.Alike before map) before
    ⟨rfl, rfl, List.forall₂_same.mpr fun l _ => alike_same l⟩ ?_ passes after done
  intro _ pass middle last sofar stepped
  obtain ⟨graph, index, each⟩ :=
    (maps_compose _ _ _ _).mp ⟨middle, sofar, pass_alike pass middle last stepped⟩
  refine ⟨graph, index, each.imp ?_⟩
  rintro l n ⟨m, first, second⟩
  exact alike_trans l m n first second

end LandmarkMap
