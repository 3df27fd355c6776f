import LandmarkMap.Quality.Evaluation
import LandmarkMap.Triangulation.Retriangulation
import LandmarkMap.Scene.Corruption
import LandmarkMap.Proofs.Batches
import LandmarkMap.Proofs.Map.Updates

set_option autoImplicit false

namespace LandmarkMap

variable {α : Type} [Scalar α]

-- The operations that read missions and vertices and write landmarks only.
inductive Pass (α : Type) [Scalar α] where
  | setPosition (id : LandmarkId) (position : Vec3 α)
  | setQuality (id : LandmarkId) (quality : Quality)
  | evaluateMissions (config : QualityConfig α) (p : Parallelism) (ids : List MissionId)
  | evaluateAll (config : QualityConfig α) (p : Parallelism)
  | resetQuality (p : Parallelism) (ids : List MissionId)
  | retriangulateOne (id : LandmarkId)
  | retriangulateAll (p : Parallelism)
  | retriangulateMissions (p : Parallelism) (ids : List MissionId)
  | retriangulateMission (p : Parallelism) (id : MissionId)
  | retriangulateVertex (p : Parallelism) (id : VertexId)
  | corrupt (source : RandomSource α) (stdDev : α) (everyNth : Nat)

namespace Pass

def apply [Spectral α] : Pass α → Map α → Except (Fault α) (Map α)
  | setPosition id position, map => (Map.setPosition id position).perform map
  | setQuality id quality, map => (Map.setQuality id quality).perform map
  | evaluateMissions config p ids, map => Prod.fst <$> map.evaluateMissions config p ids
  | evaluateAll config p, map => Prod.fst <$> map.evaluateAll config p
  | resetQuality p ids, map => map.resetQuality p ids
  | retriangulateOne id, map => Prod.fst <$> map.retriangulateOne id
  | retriangulateAll p, map => Prod.fst <$> map.retriangulateAll p
  | retriangulateMissions p ids, map => Prod.fst <$> map.retriangulateMissions p ids
  | retriangulateMission p id, map => Prod.fst <$> map.retriangulateMission p id
  | retriangulateVertex p id, map => Prod.fst <$> map.retriangulateVertex p id
  | corrupt source stdDev everyNth, map => Prod.fst <$> map.corrupt source stdDev everyNth

-- The thresholds that a pass judges by, if it judges.
def config? : Pass α → Option (QualityConfig α)
  | evaluateMissions config _ _ => some config
  | evaluateAll config _ => some config
  | _ => none

-- The label that a pass takes over from its caller unseen.
def given? : Pass α → Option Quality
  | setQuality _ quality => some quality
  | _ => none

-- All that a pass can make of one landmark.
inductive Changes (pass : Pass α) (g : PoseGraph α) (l : Landmark α) : Landmark α → Prop where
  | same : Changes pass g l l
  | moved (position : Vec3 α) : Changes pass g l (l.place position)
  | cleared : Changes pass g l (l.label .unknown)
  | judged (config : QualityConfig α) (verdict : Quality) (asked : pass.config? = some config)
      (found : evaluateQuality g config l = .ok verdict) : Changes pass g l (l.label verdict)
  | given (quality : Quality) (asked : pass.given? = some quality) :
      Changes pass g l (l.label quality)

end Pass

-- Two maps that differ in their landmarks only, each of which is related to the one in its place.
structure LandmarksRelated (r : Landmark α → Landmark α → Prop) (before after : Map α) : Prop where
  graph : after.toPoseGraph = before.toPoseGraph
  index : after.index = before.index
  landmarks : List.Forall₂ r before.landmarks after.landmarks

theorem modify_related {τ : Type} (r : τ → τ → Prop) (f : τ → τ) (items : List τ) (i : Nat)
    (same : ∀ item, r item item) (changed : ∀ item, r item (f item)) :
    List.Forall₂ r items (items.modify i f) := by
  induction items generalizing i with
  | nil =>
      rw [List.modify_nil]
      exact .nil
  | cons item rest ih =>
      cases i with
      | zero => exact .cons (changed item) (List.forall₂_same.mpr fun other _ => same other)
      | succ i => exact .cons (same item) (ih i)

theorem set_related {τ : Type} (r : τ → τ → Prop) (items : List τ) (i : Nat) (old new : τ)
    (same : ∀ item, r item item) (found : items[i]? = some old) (changed : r old new) :
    List.Forall₂ r items (items.set i new) := by
  induction items generalizing i with
  | nil => cases found
  | cons item rest ih =>
      cases i with
      | zero =>
          cases found
          exact .cons changed (List.forall₂_same.mpr fun other _ => same other)
      | succ i => exact .cons (same item) (ih i found)

theorem change_selected_ok (map after : Map α) (p : Parallelism) (selected : Landmark α → Bool)
    (change : Landmark α → Except (Fault α) (Landmark α)) :
    map.changeSelected p selected change = .ok after ↔
      ∃ landmarks, List.Forall₂ (fun l m => (if selected l then change l else .ok l) = .ok m)
        map.landmarks landmarks ∧ { map with landmarks } = after := by
  rw [Map.changeSelected, map_batches_pointwise, bind_ok]
  simp only [map_m_ok, pure_ok]

theorem selected_related (r : Landmark α → Landmark α → Prop) (map after : Map α) (p : Parallelism)
    (selected : Landmark α → Bool) (change : Landmark α → Except (Fault α) (Landmark α))
    (same : ∀ l, r l l) (changed : ∀ l m, change l = .ok m → r l m)
    (done : map.changeSelected p selected change = .ok after) : LandmarksRelated r map after := by
  obtain ⟨landmarks, each, rfl⟩ := (change_selected_ok _ _ _ _ _).mp done
  refine ⟨rfl, rfl, each.imp ?_⟩
  intro l m outcome
  cases chosen : selected l with
  | true => exact changed l m (by simpa only [chosen, if_true] using outcome)
  | false =>
      have kept : l = m := by simpa [chosen] using outcome
      exact kept ▸ same l

-- A landmark whose triangulation fails stays as it is, its label included.
theorem retriangulate_moves [Spectral α] (g : PoseGraph α) (l m : Landmark α)
    (result : TriangulationResult α) (done : retriangulate g l = .ok (m, result)) :
    m = l ∨ ∃ position, m = l.place position := by
  obtain ⟨sightings, _, done⟩ := (bind_ok _ _ _).mp done
  obtain ⟨found, _, done⟩ := (bind_ok _ _ _).mp done
  cases found with
  | successful p =>
      obtain ⟨toGlobal, _, done⟩ := (bind_ok _ _ _).mp done
      have pair := (pure_ok _ _).mp done
      exact .inr ⟨_, (congrArg Prod.fst pair).symm⟩
  | tooFewMeasurements => exact .inl (congrArg Prod.fst ((pure_ok _ _).mp done)).symm
  | unobservable => exact .inl (congrArg Prod.fst ((pure_ok _ _).mp done)).symm

theorem retriangulate_selected_ok [Spectral α] (map after : Map α) (p : Parallelism)
    (selected : Landmark α → Bool) (summary : TriangulationSummary) :
    map.retriangulateSelected p selected = .ok (after, summary) ↔
      ∃ outcomes, List.Forall₂ (fun l outcome =>
          (if selected l then (fun (m, result) => (m, some result)) <$> retriangulate map.toPoseGraph l
            else .ok (l, none)) = .ok outcome) map.landmarks outcomes ∧
        { map with landmarks := outcomes.map (·.1) } = after ∧
        TriangulationSummary.ofResults (outcomes.filterMap (·.2)) = summary := by
  rw [Map.retriangulateSelected, map_batches_pointwise, bind_ok]
  simp only [map_m_ok, pure_ok, Prod.mk.injEq]
  rfl

theorem retriangulated_related [Spectral α] (r : Landmark α → Landmark α → Prop)
    (map after : Map α) (p : Parallelism) (selected : Landmark α → Bool)
    (summary : TriangulationSummary) (same : ∀ l, r l l) (moved : ∀ l position, r l (l.place position))
    (done : map.retriangulateSelected p selected = .ok (after, summary)) :
    LandmarksRelated r map after := by
  obtain ⟨outcomes, each, rfl, _⟩ := (retriangulate_selected_ok _ _ _ _ _).mp done
  refine ⟨rfl, rfl, List.forall₂_map_right_iff.mpr (each.imp ?_)⟩
  rintro l ⟨m, result⟩ outcome
  cases chosen : selected l with
  | true =>
      obtain ⟨⟨n, found⟩, triangulated, pair⟩ :=
        (map_ok _ _ _).mp (by simpa only [chosen, if_true] using outcome)
      cases pair
      rcases retriangulate_moves _ _ _ _ triangulated with rfl | ⟨position, rfl⟩
      · exact same _
      · exact moved _ position
  | false =>
      have kept : l = m ∧ none = result := by simpa [chosen] using outcome
      exact kept.1 ▸ same l

theorem update_landmark_related (r : Landmark α → Landmark α → Prop) (map after : Map α)
    (id : LandmarkId) (change : Landmark α → Landmark α) (same : ∀ l, r l l)
    (changed : ∀ l, r l (change l)) (done : (Map.updateLandmark id change).perform map = .ok after) :
    LandmarksRelated r map after := by
  rw [perform_update_landmark, bind_ok] at done
  obtain ⟨i, _, done⟩ := done
  cases (pure_ok _ _).mp done
  exact ⟨rfl, rfl, modify_related r change map.landmarks i same changed⟩

theorem evaluated_related (r : Landmark α → Landmark α → Prop) (map after : Map α)
    (config : QualityConfig α) (p : Parallelism) (ids : List MissionId) (summary : QualitySummary)
    (same : ∀ l, r l l)
    (judged : ∀ l verdict, evaluateQuality map.toPoseGraph config l = .ok verdict → r l (l.label verdict))
    (done : map.evaluateMissions config p ids = .ok (after, summary)) : LandmarksRelated r map after := by
  obtain ⟨_, _, done⟩ := (bind_ok _ _ _).mp done
  obtain ⟨labelled, changed, done⟩ := (bind_ok _ _ _).mp done
  cases (pure_ok _ _).mp done
  refine selected_related r map _ p _ _ same ?_ changed
  intro l m outcome
  obtain ⟨verdict, found, outcome⟩ := (bind_ok _ _ _).mp outcome
  cases (pure_ok _ _).mp outcome
  exact judged l verdict found

theorem retriangulated_one_related [Spectral α] (r : Landmark α → Landmark α → Prop)
    (map after : Map α) (id : LandmarkId) (result : TriangulationResult α)
    (same : ∀ l, r l l) (moved : ∀ l position, r l (l.place position))
    (done : map.retriangulateOne id = .ok (after, result)) : LandmarksRelated r map after := by
  obtain ⟨i, found, done⟩ := (bind_ok _ _ _).mp done
  obtain ⟨l, read, done⟩ := (bind_ok _ _ _).mp done
  obtain ⟨⟨m, outcome⟩, triangulated, done⟩ := (bind_ok _ _ _).mp done
  cases (pure_ok _ _).mp done
  obtain ⟨j, sameSlot, stored⟩ := (bind_ok _ _ _).mp read
  cases found.symm.trans sameSlot
  refine ⟨rfl, rfl, set_related r map.landmarks i l m same ((fetch_ok _ _ _).mp stored) ?_⟩
  rcases retriangulate_moves _ _ _ _ triangulated with rfl | ⟨position, rfl⟩
  · exact same _
  · exact moved _ position

theorem corrupt_from_related (r : Landmark α → Landmark α → Prop) (source : RandomSource α)
    (stdDev : α) (stride i draws : Nat) (landmarks : List (Landmark α))
    (same : ∀ l, r l l) (moved : ∀ l position, r l (l.place position)) :
    List.Forall₂ r landmarks (corruptFrom source stdDev stride i draws landmarks).1 := by
  induction landmarks generalizing i draws with
  | nil => exact .nil
  | cons l rest ih =>
      cases placed : l.position with
      | none =>
          simp only [corruptFrom, placed]
          exact .cons (same l) (ih (i + 1) draws)
      | some p =>
          by_cases hit : i % stride = 0
          · simp only [corruptFrom, placed, if_pos hit]
            exact .cons (moved l _) (ih (i + 1) (draws + 3))
          · simp only [corruptFrom, placed, if_neg hit]
            exact .cons (same l) (ih (i + 1) draws)

-- The only theorem about passes that looks at each of them.
theorem pass_effect [Spectral α] (pass : Pass α) (before after : Map α)
    (done : pass.apply before = .ok after) :
    LandmarksRelated (pass.Changes before.toPoseGraph) before after := by
  have same : ∀ l, pass.Changes before.toPoseGraph l l := fun _ => .same
  have moved : ∀ l position, pass.Changes before.toPoseGraph l (l.place position) :=
    fun _ position => .moved position
  cases pass with
  | setPosition id position =>
      exact update_landmark_related _ before after id _ same (fun l => moved l position) done
  | setQuality id quality =>
      exact update_landmark_related _ before after id _ same (fun _ => .given quality rfl) done
  | evaluateMissions config p ids =>
      obtain ⟨⟨_, summary⟩, evaluated, rfl⟩ := (map_ok _ _ _).mp done
      exact evaluated_related _ _ _ config p ids summary same
        (fun _ verdict found => .judged config verdict rfl found) evaluated
  | evaluateAll config p =>
      obtain ⟨⟨_, summary⟩, evaluated, rfl⟩ := (map_ok _ _ _).mp done
      exact evaluated_related _ _ _ config p before.missionIds summary same
        (fun _ verdict found => .judged config verdict rfl found) evaluated
  | resetQuality p ids =>
      obtain ⟨_, _, reset⟩ := (bind_ok _ _ _).mp done
      refine selected_related _ _ _ p _ _ same ?_ reset
      intro l m outcome
      cases outcome
      exact .cleared
  | retriangulateOne id =>
      obtain ⟨⟨_, result⟩, triangulated, rfl⟩ := (map_ok _ _ _).mp done
      exact retriangulated_one_related _ _ _ id result same moved triangulated
  | retriangulateAll p =>
      obtain ⟨⟨_, summary⟩, triangulated, rfl⟩ := (map_ok _ _ _).mp done
      exact retriangulated_related _ _ _ p _ summary same moved triangulated
  | retriangulateMissions p ids =>
      obtain ⟨⟨_, summary⟩, triangulated, rfl⟩ := (map_ok _ _ _).mp done
      obtain ⟨_, _, triangulated⟩ := (bind_ok _ _ _).mp triangulated
      exact retriangulated_related _ _ _ p _ summary same moved triangulated
  | retriangulateMission p id =>
      obtain ⟨⟨_, summary⟩, triangulated, rfl⟩ := (map_ok _ _ _).mp done
      obtain ⟨_, _, triangulated⟩ := (bind_ok _ _ _).mp triangulated
      exact retriangulated_related _ _ _ p _ summary same moved triangulated
  | retriangulateVertex p id =>
      obtain ⟨⟨_, summary⟩, triangulated, rfl⟩ := (map_ok _ _ _).mp done
      obtain ⟨_, _, triangulated⟩ := (bind_ok _ _ _).mp triangulated
      exact retriangulated_related _ _ _ p _ summary same moved triangulated
  | corrupt source stdDev everyNth =>
      obtain ⟨⟨_, count⟩, corrupted, rfl⟩ := (map_ok _ _ _).mp done
      obtain ⟨_, _, corrupted⟩ := (bind_ok _ _ _).mp corrupted
      cases (pure_ok _ _).mp corrupted
      exact ⟨rfl, rfl, corrupt_from_related _ source stdDev everyNth 0 0 before.landmarks same moved⟩

theorem changes_keep (pass : Pass α) (g : PoseGraph α) (l m : Landmark α)
    (change : pass.Changes g l m) :
    m.id = l.id ∧ m.mission = l.mission ∧ m.observations = l.observations := by
  cases change with
  | same => exact ⟨rfl, rfl, rfl⟩
  | moved position => exact ⟨rfl, rfl, rfl⟩
  | cleared => exact ⟨rfl, rfl, rfl⟩
  | judged config verdict asked found => exact ⟨rfl, rfl, rfl⟩
  | given quality asked => exact ⟨rfl, rfl, rfl⟩

theorem related_map {τ ρ : Type} (r : τ → τ → Prop) (f : τ → ρ) (before after : List τ)
    (same : ∀ x y, r x y → f y = f x) (related : List.Forall₂ r before after) :
    after.map f = before.map f := by
  induction related with
  | nil => rfl
  | cons first _ ih => rw [List.map_cons, List.map_cons, same _ _ first, ih]

theorem related_member {τ ρ : Type} (r : τ → ρ → Prop) (before : List τ) (after : List ρ)
    (related : List.Forall₂ r before after) (new : ρ) (member : new ∈ after) :
    ∃ old ∈ before, r old new := by
  induction related with
  | nil => cases member
  | cons first _ ih =>
      rcases List.mem_cons.mp member with rfl | later
      · exact ⟨_, List.mem_cons_self, first⟩
      · obtain ⟨old, there, related⟩ := ih later
        exact ⟨old, List.mem_cons_of_mem _ there, related⟩

end LandmarkMap
