import LandmarkMap.Proofs.Quality.Evaluation
import LandmarkMap.Proofs.Triangulation.Traceless

set_option autoImplicit false

namespace LandmarkMap

variable {α : Type}

-- What a batch pass makes of a landmark: a change if its mission is listed, nothing otherwise.
def RewritesIn (ids : List MissionId) (change : Landmark α → Except (Fault α) (Landmark α)) :
    Landmark α → Landmark α → Prop :=
  Rewrites (fun l => ids.contains l.mission) change

theorem rewrites_in (ids : List MissionId) (change : Landmark α → Except (Fault α) (Landmark α))
    (l m : Landmark α) :
    RewritesIn ids change l m ↔ l.mission ∈ ids ∧ change l = .ok m ∨ l.mission ∉ ids ∧ m = l := by
  unfold RewritesIn
  by_cases listed : l.mission ∈ ids
  · rw [rewrites_chosen _ _ l m (by simpa using listed)]
    simp only [listed, true_and, not_true_eq_false, false_and, or_false]
  · rw [rewrites_other _ _ l m (by simpa using listed)]
    simp only [listed, false_and, not_false_eq_true, true_and, false_or]

-- No landmark leaves its mission.
def StaysHome (change : Landmark α → Except (Fault α) (Landmark α)) : Prop :=
  ∀ l m, change l = .ok m → m.mission = l.mission

-- The second time, nothing changes any more.
def Settles (change : Landmark α → Except (Fault α) (Landmark α)) : Prop :=
  ∀ l m, change l = .ok m → change m = .ok m

section Landmarks

variable {change other : Landmark α → Except (Fault α) (Landmark α)}

theorem rewrites_twice (ids : List MissionId) (home : StaysHome change) (settles : Settles change)
    (l m : Landmark α) (once : RewritesIn ids change l m) : RewritesIn ids change m m := by
  rw [rewrites_in] at once ⊢
  rcases once with ⟨listed, done⟩ | ⟨unlisted, rfl⟩
  · exact .inl ⟨home l m done ▸ listed, settles l m done⟩
  · exact .inr ⟨unlisted, rfl⟩

theorem rewrites_merge (first second : List MissionId) (settles : Settles change) (l n : Landmark α) :
    (∃ m, RewritesIn first change l m ∧ RewritesIn second change m n) ↔
      RewritesIn (first ++ second) change l n := by
  simp only [RewritesIn, List.contains_append]
  exact rewrites_either _ _ change settles l n

-- No landmark is changed twice, since the first change would have had to move it to another mission.
theorem rewrites_swap (first second : List MissionId) (home : StaysHome change)
    (home' : StaysHome other) (apart : ∀ id ∈ first, id ∉ second) (l n : Landmark α)
    (done : ∃ m, RewritesIn first change l m ∧ RewritesIn second other m n) :
    ∃ m, RewritesIn second other l m ∧ RewritesIn first change m n := by
  simp only [rewrites_in] at done ⊢
  obtain ⟨m, ⟨listed, done⟩ | ⟨unlisted, rfl⟩, ⟨listed', done'⟩ | ⟨unlisted', rfl⟩⟩ := done
  · exact absurd (home l m done ▸ listed') (apart _ listed)
  · exact ⟨l, .inr ⟨apart _ listed, rfl⟩, .inl ⟨listed, done⟩⟩
  · exact ⟨n, .inl ⟨listed', done'⟩, .inr ⟨home' m n done' ▸ unlisted, rfl⟩⟩
  · exact ⟨n, .inr ⟨unlisted', rfl⟩, .inr ⟨unlisted, rfl⟩⟩

end Landmarks

variable [Scalar α]

theorem judge_stays_home (c : QualityConfig α) (g : PoseGraph α) : StaysHome (judge g c) := by
  intro l m done
  obtain ⟨_, _, rfl⟩ := (judge_ok _ _ _ _).mp done
  rfl

theorem judge_settles (c : QualityConfig α) (g : PoseGraph α) : Settles (judge g c) := by
  intro l m done
  obtain ⟨verdict, found, rfl⟩ := (judge_ok _ _ _ _).mp done
  exact (judge_ok _ _ _ _).mpr ⟨verdict, (evaluate_ignores_label g c l verdict).trans found, rfl⟩

theorem evaluated_again (map after : Map α) (c : QualityConfig α) (p q : Parallelism)
    (ids : List MissionId) (summary : QualitySummary)
    (done : map.evaluateMissions c p ids = .ok (after, summary)) :
    after.evaluateMissions c q ids = .ok (after, summary) := by
  obtain ⟨known, related, counted⟩ := (evaluate_missions_ok _ _ _ _ _ _).mp done
  refine (evaluate_missions_ok _ _ _ _ _ _).mpr ⟨?_, ⟨rfl, rfl, ?_⟩, counted⟩
  · rw [related.graph]
    exact known
  · rw [related.graph, List.forall₂_same]
    intro m member
    obtain ⟨l, _, became⟩ := related_member _ _ _ related.landmarks m member
    exact rewrites_twice ids (judge_stays_home c _) (judge_settles c _) l m became

variable [Spectral α]

-- A pass that succeeds exactly if the missions exist and every landmark can be rewritten.
def Pass.IsBatch (pass : Pass α) (ids : List MissionId)
    (change : PoseGraph α → Landmark α → Except (Fault α) (Landmark α)) : Prop :=
  ∀ map after, pass.apply map = .ok after ↔
    (∀ id ∈ ids, map.missions.contains id = true) ∧
      LandmarksRelated (RewritesIn ids (change map.toPoseGraph)) map after

section Passes

variable {change other : PoseGraph α → Landmark α → Except (Fault α) (Landmark α)}
variable (first second third fourth : Pass α) (ids ids' : List MissionId) (map after : Map α)

theorem run_two (here : first.IsBatch ids change) (there : second.IsBatch ids' other) :
    Pass.run [first, second] map = .ok after ↔
      (∀ id ∈ ids ++ ids', map.missions.contains id = true) ∧
        LandmarksRelated (fun l n => ∃ m, RewritesIn ids (change map.toPoseGraph) l m ∧
          RewritesIn ids' (other map.toPoseGraph) m n) map after := by
  simp only [Pass.run, List.foldlM_cons, List.foldlM_nil, bind_pure, bind_ok, here _ _, there _ _,
    List.forall_mem_append, ← maps_compose]
  constructor
  · rintro ⟨middle, ⟨known, related⟩, known', related'⟩
    rw [related.graph] at known' related'
    exact ⟨⟨known, known'⟩, middle, related, related'⟩
  · rintro ⟨⟨known, known'⟩, middle, related, related'⟩
    refine ⟨middle, ⟨known, related⟩, ?_⟩
    rw [related.graph]
    exact ⟨known', related'⟩

theorem run_merged (settles : ∀ g, Settles (change g)) (here : first.IsBatch ids change)
    (there : second.IsBatch ids' change) :
    Pass.run [first, second] map = .ok after ↔
      (∀ id ∈ ids ++ ids', map.missions.contains id = true) ∧
        LandmarksRelated (RewritesIn (ids ++ ids') (change map.toPoseGraph)) map after := by
  rw [run_two first second ids ids' map after here there]
  simp only [rewrites_merge ids ids' (settles _)]

theorem run_reorders (settles : ∀ g, Settles (change g))
    (here : first.IsBatch ids change) (there : second.IsBatch ids' change)
    (there' : third.IsBatch ids' change) (here' : fourth.IsBatch ids change) :
    Pass.run [first, second] map = .ok after ↔ Pass.run [third, fourth] map = .ok after := by
  have same : ∀ id, id ∈ ids ++ ids' ↔ id ∈ ids' ++ ids := by
    intro id
    rw [List.mem_append, List.mem_append, or_comm]
  rw [run_merged first second ids ids' map after settles here there,
    run_merged third fourth ids' ids map after settles there' here']
  simp only [RewritesIn, same_missions _ _ same, same]

theorem run_swaps (home : ∀ g, StaysHome (change g)) (home' : ∀ g, StaysHome (other g))
    (apart : ∀ id ∈ ids, id ∉ ids') (here : first.IsBatch ids change)
    (there : second.IsBatch ids' other) (there' : third.IsBatch ids' other)
    (here' : fourth.IsBatch ids change) (done : Pass.run [first, second] map = .ok after) :
    Pass.run [third, fourth] map = .ok after := by
  obtain ⟨known, graph, index, each⟩ := (run_two first second ids ids' map after here there).mp done
  refine (run_two third fourth ids' ids map after there' here').mpr ⟨?_, graph, index, each.imp ?_⟩
  · intro id member
    exact known id (List.mem_append.mpr (List.mem_append.mp member).symm)
  · exact rewrites_swap ids ids' (home _) (home' _) apart

end Passes

theorem evaluation_is_batch (c : QualityConfig α) (p : Parallelism) (ids : List MissionId) :
    (Pass.evaluateMissions c p ids).IsBatch ids fun g => judge g c := by
  intro map after
  simp only [Pass.apply, map_ok, Prod.exists, exists_and_right, exists_eq_right, evaluate_missions_ok]
  constructor
  · rintro ⟨_, known, related, _⟩
    exact ⟨known, related⟩
  · rintro ⟨known, related⟩
    exact ⟨_, known, related, rfl⟩

def triangulate (g : PoseGraph α) (l : Landmark α) : Except (Fault α) (Landmark α) :=
  Prod.fst <$> retriangulate g l

theorem triangulate_ok (g : PoseGraph α) (l m : Landmark α) :
    triangulate g l = .ok m ↔ ∃ result, triangulationOf g l = .ok result ∧ l.SettledBy g result m := by
  simp only [triangulate, map_ok, Prod.exists, exists_and_right, exists_eq_right, retriangulate_ok]

theorem triangulate_stays_home (g : PoseGraph α) : StaysHome (triangulate g) := by
  intro l m done
  obtain ⟨result, _, settled⟩ := (triangulate_ok _ _ _).mp done
  exact (settled_alike g l m result settled).mission

theorem triangulate_settles (g : PoseGraph α) : Settles (triangulate g) := by
  intro l m done
  obtain ⟨result, status, settled⟩ := (triangulate_ok _ _ _).mp done
  have alike := settled_alike g l m result settled
  exact (triangulate_ok _ _ _).mpr
    ⟨result, (triangulation_alike g l m alike).trans status, settled_again g l m result settled⟩

theorem treated_rewrites (g : PoseGraph α) (selected : Landmark α → Bool) (l m : Landmark α) :
    (∃ outcome, l.Treated g selected outcome ∧ outcome.1 = m) ↔ Rewrites selected (triangulate g) l m := by
  cases chosen : selected l with
  | true =>
      rw [rewrites_chosen _ _ _ _ chosen, triangulate_ok]
      constructor
      · rintro ⟨_, ⟨m, result, _, status, settled⟩ | elsewhere, rfl⟩
        · exact ⟨result, status, settled⟩
        · cases chosen.symm.trans elsewhere
      · rintro ⟨result, status, settled⟩
        exact ⟨(m, some result), .chosen m result chosen status settled, rfl⟩
  | false =>
      rw [rewrites_other _ _ _ _ chosen]
      constructor
      · rintro ⟨_, ⟨m, result, here, _, _⟩ | _, rfl⟩
        · cases chosen.symm.trans here
        · rfl
      · rintro rfl
        exact ⟨(m, none), .passed chosen, rfl⟩

theorem retriangulate_selected_related (map after : Map α) (p : Parallelism) (selected : Landmark α → Bool) :
    (∃ summary, map.retriangulateSelected p selected = .ok (after, summary)) ↔
      LandmarksRelated (Rewrites selected (triangulate map.toPoseGraph)) map after := by
  constructor
  · rintro ⟨summary, done⟩
    obtain ⟨outcomes, treated, rfl, _⟩ := (retriangulated_treated _ _ _ _ _).mp done
    refine ⟨rfl, rfl, List.forall₂_map_right_iff.mpr (treated.imp ?_)⟩
    intro l outcome became
    exact (treated_rewrites _ _ _ _).mp ⟨outcome, became, rfl⟩
  · intro related
    obtain ⟨landmarks, each, rfl⟩ := (related_landmarks _ _ _).mp related
    have both := each.imp fun l m => (treated_rewrites map.toPoseGraph _ l m).mpr
    obtain ⟨outcomes, treated, firsts⟩ := (related_compose _ _ _ _).mpr both
    have same : outcomes.map (·.1) = landmarks := by
      rw [← List.forall₂_eq_eq_eq, List.forall₂_map_left_iff]
      exact firsts
    exact ⟨_, (retriangulated_treated map { map with landmarks } p _ _).mpr ⟨outcomes, treated, by rw [same], rfl⟩⟩

theorem retriangulation_is_batch (p : Parallelism) (ids : List MissionId) :
    (Pass.retriangulateMissions p ids : Pass α).IsBatch ids triangulate := by
  intro map after
  constructor
  · intro applied
    obtain ⟨⟨_, summary⟩, moved, rfl⟩ := (map_ok _ _ _).mp applied
    obtain ⟨known, selected⟩ := (scope_retriangulate_ok (.missions ids) map p _).mp moved
    exact ⟨known, (retriangulate_selected_related _ _ _ _).mp ⟨summary, selected⟩⟩
  · rintro ⟨known, related⟩
    obtain ⟨summary, selected⟩ := (retriangulate_selected_related map after p _).mpr related
    exact (map_ok _ _ _).mpr
      ⟨_, (scope_retriangulate_ok (.missions ids) map p _).mpr ⟨known, selected⟩, rfl⟩

-- What batch passes over one map have in common, whatever the number of threads of each. The lists
-- of missions may overlap except in `apart`; the passes of `erased` are of any kind, corruption of the
-- positions included.
structure Map.PassAlgebra (map : Map α) : Prop where
  evaluate_again : ∀ c p q ids after summary,
    map.evaluateMissions c p ids = .ok (after, summary) →
      after.evaluateMissions c q ids = .ok (after, summary)
  retriangulate_again : ∀ (scope : Scope) p q after summary,
    scope.retriangulate map p = .ok (after, summary) →
      scope.retriangulate after q = .ok (after, summary)
  evaluate_order : ∀ c p q p' q' ids ids' after,
    Pass.run [.evaluateMissions c p ids, .evaluateMissions c q ids'] map = .ok after ↔
      Pass.run [.evaluateMissions c p' ids', .evaluateMissions c q' ids] map = .ok after
  evaluate_both : ∀ c p q r ids ids' after,
    Pass.run [.evaluateMissions c p ids, .evaluateMissions c q ids'] map = .ok after ↔
      (Pass.evaluateMissions c r (ids ++ ids')).apply map = .ok after
  retriangulate_order : ∀ p q p' q' ids ids' after,
    Pass.run [.retriangulateMissions p ids, .retriangulateMissions q ids'] map = .ok after ↔
      Pass.run [.retriangulateMissions p' ids', .retriangulateMissions q' ids] map = .ok after
  retriangulate_both : ∀ p q r ids ids' after,
    Pass.run [.retriangulateMissions p ids, .retriangulateMissions q ids'] map = .ok after ↔
      (Pass.retriangulateMissions r (ids ++ ids')).apply map = .ok after
  apart : ∀ c p q p' q' ids ids' after, (∀ id ∈ ids, id ∉ ids') →
    (Pass.run [.retriangulateMissions p ids, .evaluateMissions c q ids'] map = .ok after ↔
      Pass.run [.evaluateMissions c p' ids', .retriangulateMissions q' ids] map = .ok after)
  statuses : ∀ other, LandmarksRelated Landmark.Alike map other →
    List.Forall₂ (fun l m => triangulationOf other.toPoseGraph m = triangulationOf map.toPoseGraph l)
      map.landmarks other.landmarks
  traceless : ∀ other scope, LandmarksRelated Landmark.Alike map other → map.Retraces scope other
  erased : ∀ passes other scope, Pass.run passes map = .ok other → map.Retraces scope other

theorem pass_algebra (map : Map α) : map.PassAlgebra := by
  constructor
  · intro c p q ids after summary
    exact evaluated_again map after c p q ids summary
  · intro scope p q after summary
    exact retriangulated_again scope map after p q summary
  · intro c p q p' q' ids ids' after
    exact run_reorders _ _ _ _ ids ids' map after (judge_settles c)
      (evaluation_is_batch c p ids) (evaluation_is_batch c q ids')
      (evaluation_is_batch c p' ids') (evaluation_is_batch c q' ids)
  · intro c p q r ids ids' after
    have merged := run_merged _ _ ids ids' map after (judge_settles c)
      (evaluation_is_batch c p ids) (evaluation_is_batch c q ids')
    exact merged.trans (evaluation_is_batch c r (ids ++ ids') map after).symm
  · intro p q p' q' ids ids' after
    exact run_reorders _ _ _ _ ids ids' map after triangulate_settles
      (retriangulation_is_batch p ids) (retriangulation_is_batch q ids')
      (retriangulation_is_batch p' ids') (retriangulation_is_batch q' ids)
  · intro p q r ids ids' after
    have merged := run_merged _ _ ids ids' map after triangulate_settles
      (retriangulation_is_batch p ids) (retriangulation_is_batch q ids')
    exact merged.trans (retriangulation_is_batch r (ids ++ ids') map after).symm
  · intro c p q p' q' ids ids' after apart
    have apart' : ∀ id ∈ ids', id ∉ ids := fun id there here => apart id here there
    constructor
    · exact run_swaps _ _ _ _ ids ids' map after triangulate_stays_home (judge_stays_home c) apart
        (retriangulation_is_batch p ids) (evaluation_is_batch c q ids')
        (evaluation_is_batch c p' ids') (retriangulation_is_batch q' ids)
    · exact run_swaps _ _ _ _ ids' ids map after (judge_stays_home c) triangulate_stays_home apart'
        (evaluation_is_batch c p' ids') (retriangulation_is_batch q' ids)
        (retriangulation_is_batch p ids) (evaluation_is_batch c q ids')
  · intro other alike
    rw [alike.graph]
    exact alike.landmarks.imp fun l m like => triangulation_alike map.toPoseGraph l m like
  · intro other scope alike
    exact alike_retraces scope map other alike
  · intro passes other scope done
    exact alike_retraces scope map other (run_alike passes map other done)

-- The first mission is triangulated and the second one judged, in either order. After all landmarks
-- have been disturbed, the first mission is triangulated with the same counts.
theorem two_missions_independent :
    ∃ after disturbed moved moved',
      Pass.run [.retriangulateMissions Parallelism.single [Id.ofNat 1],
        .evaluateMissions threeObservers Parallelism.single [Id.ofNat 7]] twoMissionsMap = .ok after ∧
      Pass.run [.evaluateMissions threeObservers ⟨true, some 4, 1⟩ [Id.ofNat 7],
        .retriangulateMissions ⟨true, some 4, 1⟩ [Id.ofNat 1]] twoMissionsMap = .ok after ∧
      after.landmarks.map (·.quality) = [.unknown, .good, .bad] ∧
      Pass.run [.corrupt (RandomSource.ofSeed 7) 0.5 1] twoMissionsMap = .ok disturbed ∧
      (Scope.mission (Id.ofNat 1)).retriangulate twoMissionsMap Parallelism.single =
        .ok (moved, ⟨1, 1, 0⟩) ∧
      (Scope.mission (Id.ofNat 1)).retriangulate disturbed ⟨true, some 4, 1⟩ =
        .ok (moved', ⟨1, 1, 0⟩) := by
  have algebra := pass_algebra twoMissionsMap
  have labels : ((Pass.run [.retriangulateMissions Parallelism.single [Id.ofNat 1],
      .evaluateMissions threeObservers Parallelism.single [Id.ofNat 7]] twoMissionsMap).toOption.map
        fun after => after.landmarks.map (·.quality)) = some [.unknown, .good, .bad] := by
    decide +kernel
  have counts : (((Scope.mission (Id.ofNat 1)).retriangulate twoMissionsMap
      Parallelism.single).toOption.map fun (_, summary) => summary) = some ⟨1, 1, 0⟩ := by
    decide +kernel
  obtain ⟨after, ran, judged⟩ := observed_ok _ _ _ labels
  obtain ⟨⟨moved, summary⟩, done, rfl⟩ := observed_ok _ _ _ counts
  have swapped := (algebra.apart threeObservers _ _ ⟨true, some 4, 1⟩ ⟨true, some 4, 1⟩ _ _ after
    (by decide)).mp ran
  obtain ⟨moved', again, _⟩ := algebra.erased [.corrupt (RandomSource.ofSeed 7) 0.5 1] _ _ rfl
    Parallelism.single ⟨true, some 4, 1⟩ moved _ done
  exact ⟨after, _, moved, moved', ran, swapped, judged, rfl, done, again⟩

end LandmarkMap
