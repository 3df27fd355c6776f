import LandmarkMap.Proofs.Map.Runs

set_option autoImplicit false

namespace LandmarkMap

-- What a pass makes of one item: a change of its own if the item is selected, nothing otherwise.
def Rewrites {ε τ : Type} (selected : τ → Bool) (change : τ → Except ε τ) (old new : τ) : Prop :=
  (if selected old then change old else .ok old) = .ok new

variable {ε τ ρ σ : Type}

theorem rewrites_chosen (selected : τ → Bool) (change : τ → Except ε τ) (old new : τ)
    (chosen : selected old = true) : Rewrites selected change old new ↔ change old = .ok new := by
  rw [Rewrites, if_pos chosen]

theorem rewrites_other (selected : τ → Bool) (change : τ → Except ε τ) (old new : τ)
    (other : selected old = false) : Rewrites selected change old new ↔ new = old := by
  simp [Rewrites, other, eq_comm]

-- Where a second change would find nothing to do, two passes in a row are one over what either selects.
theorem rewrites_either (first second : τ → Bool) (change : τ → Except ε τ)
    (settles : ∀ old new, change old = .ok new → change new = .ok new) (old new : τ) :
    (∃ middle, Rewrites first change old middle ∧ Rewrites second change middle new) ↔
      Rewrites (fun item => first item || second item) change old new := by
  cases here : first old with
  | false =>
      simp only [rewrites_other first change old _ here, exists_eq_left]
      rw [Rewrites, Rewrites, here, Bool.false_or]
  | true =>
      rw [rewrites_chosen _ _ old new (by rw [here, Bool.true_or])]
      simp only [rewrites_chosen first change old _ here]
      constructor
      · rintro ⟨middle, done, again⟩
        cases there : second middle with
        | true =>
            rw [rewrites_chosen _ _ _ _ there, settles old middle done] at again
            exact Except.ok.inj again ▸ done
        | false =>
            rw [rewrites_other _ _ _ _ there] at again
            exact again ▸ done
      · intro done
        refine ⟨new, done, ?_⟩
        cases there : second new with
        | true => exact (rewrites_chosen _ _ _ _ there).mpr (settles old new done)
        | false => exact (rewrites_other _ _ _ _ there).mpr rfl

theorem related_compose (r : τ → ρ → Prop) (s : ρ → σ → Prop) (first : List τ) (last : List σ) :
    (∃ middle, List.Forall₂ r first middle ∧ List.Forall₂ s middle last) ↔
      List.Forall₂ (fun x z => ∃ y, r x y ∧ s y z) first last := by
  constructor
  · rintro ⟨middle, before, after⟩
    induction before generalizing last with
    | nil =>
        cases after
        exact .nil
    | cons here _ ih =>
        cases after with
        | cons there rest => exact .cons ⟨_, here, there⟩ (ih _ rest)
  · intro both
    induction both with
    | nil => exact ⟨[], .nil, .nil⟩
    | cons here _ ih =>
        obtain ⟨y, before, after⟩ := here
        obtain ⟨middle, all, rest⟩ := ih
        exact ⟨y :: middle, .cons before all, .cons after rest⟩

theorem related_found (r : τ → ρ → Prop) (before : List τ) (after : List ρ)
    (related : List.Forall₂ r before after) (i : Nat) (old : τ) (found : before[i]? = some old) :
    ∃ new, after[i]? = some new ∧ r old new := by
  induction related generalizing i with
  | nil => cases found
  | cons here _ ih =>
      cases i with
      | zero =>
          cases found
          exact ⟨_, rfl, here⟩
      | succ i => exact ih i found

variable {α : Type} [Scalar α]

theorem related_landmarks (r : Landmark α → Landmark α → Prop) (before after : Map α) :
    LandmarksRelated r before after ↔
      ∃ landmarks, List.Forall₂ r before.landmarks landmarks ∧ { before with landmarks } = after := by
  constructor
  · rintro ⟨graph, index, each⟩
    refine ⟨after.landmarks, each, ?_⟩
    rw [← graph, ← index]
  · rintro ⟨landmarks, each, rfl⟩
    exact ⟨rfl, rfl, each⟩

theorem maps_compose (r s : Landmark α → Landmark α → Prop) (before after : Map α) :
    (∃ middle, LandmarksRelated r before middle ∧ LandmarksRelated s middle after) ↔
      LandmarksRelated (fun l n => ∃ m, r l m ∧ s m n) before after := by
  constructor
  · rintro ⟨middle, first, second⟩
    exact ⟨second.graph.trans first.graph, second.index.trans first.index,
      (related_compose _ _ _ _).mp ⟨middle.landmarks, first.landmarks, second.landmarks⟩⟩
  · rintro ⟨graph, index, each⟩
    obtain ⟨landmarks, first, second⟩ := (related_compose _ _ _ _).mpr each
    exact ⟨{ before with landmarks }, ⟨rfl, rfl, first⟩, ⟨graph, index, second⟩⟩

theorem require_missions_ok (map : Map α) (ids : List MissionId) (result : Unit) :
    map.requireMissions ids = .ok result ↔ ∀ id ∈ ids, map.missions.contains id = true := by
  induction ids with
  | nil =>
      constructor
      · intro _ id member
        cases member
      · intro _
        rfl
  | cons id rest ih => rw [Map.requireMissions, require_bind_ok, ih, List.forall_mem_cons]

theorem lookup_listed {κ ν : Type} [DecidableEq κ] (key : κ) (value : ν) (entries : List (κ × ν))
    (found : Table.lookup key entries = some value) : key ∈ entries.map Prod.fst := by
  induction entries with
  | nil => cases found
  | cons entry rest ih =>
      by_cases here : entry.1 = key
      · exact List.mem_cons.mpr (.inl here.symm)
      · rw [Table.lookup, if_neg here] at found
        exact List.mem_cons_of_mem _ (ih found)

theorem mission_listed (g : PoseGraph α) (id : MissionId) (there : g.missions.contains id = true) : id ∈ g.missionIds := by
  obtain ⟨mission, found⟩ := (Table.contains_get _ _).mp there
  exact List.mem_mergeSort.mpr (lookup_listed id mission g.missions.entries found)

theorem change_selected_related (map after : Map α) (p : Parallelism) (selected : Landmark α → Bool)
    (change : Landmark α → Except (Fault α) (Landmark α)) :
    map.changeSelected p selected change = .ok after ↔
      LandmarksRelated (Rewrites selected change) map after := by
  rw [change_selected_ok, related_landmarks]
  rfl

theorem same_missions (ids ids' : List MissionId) (same : ∀ id, id ∈ ids' ↔ id ∈ ids)
    (id : MissionId) : ids'.contains id = ids.contains id := by
  rw [Bool.eq_iff_iff, List.contains_iff_mem, List.contains_iff_mem]
  exact same id

-- Two missions. Two vertices of the first see one landmark of each, from a metre apart, and the
-- first vertex sees another landmark alone.

def nearVertex : VertexId := Id.ofNat 2

def farVertex : VertexId := Id.ofNat 3

def twoMissions : List (Operation Float) :=
  [.addMission (Id.ofNat 1) Pose.identity ⟨[⟨plainCamera, Pose.identity⟩]⟩,
    .addMission (Id.ofNat 7) (Pose.atPosition ⟨0, 0, 2⟩) ⟨[⟨plainCamera, Pose.identity⟩]⟩,
    .addVertex (restingVertex nearVertex) (.create nearVertex (Id.ofNat 1) ⟨0⟩ _ 1 _ rfl),
    .addVertex (restingVertex farVertex) (.create farVertex (Id.ofNat 1) ⟨0⟩ _ 1 _ rfl),
    .setPose farVertex (Pose.atPosition ⟨1, 0, 0⟩),
    .addLandmark ⟨Id.ofNat 5, Id.ofNat 1, none, .unknown, []⟩ fresh_landmark_built,
    .addLandmark ⟨Id.ofNat 6, Id.ofNat 1, none, .unknown, []⟩ (.create (Id.ofNat 6) (Id.ofNat 1) _ rfl),
    .addLandmark ⟨Id.ofNat 8, Id.ofNat 7, none, .unknown, []⟩ (.create (Id.ofNat 8) (Id.ofNat 7) _ rfl),
    .addObservation (Id.ofNat 5) nearVertex 0 ⟨367.215, 248.375⟩,
    .addObservation (Id.ofNat 5) farVertex 0 ⟨252.5515, 248.375⟩,
    .addObservation (Id.ofNat 6) nearVertex 0 ⟨100, 100⟩,
    .addObservation (Id.ofNat 8) nearVertex 0 ⟨367.215, 248.375⟩,
    .addObservation (Id.ofNat 8) farVertex 0 ⟨252.5515, 248.375⟩,
    .pass (.setPosition (Id.ofNat 5) ⟨0, 0, 9⟩),
    .pass (.setPosition (Id.ofNat 6) ⟨1, 1, 3⟩),
    .pass (.setPosition (Id.ofNat 8) ⟨0, 0, 9⟩),
    .pass (.setQuality (Id.ofNat 5) .good),
    .pass (.setQuality (Id.ofNat 6) .good),
    .pass (.setQuality (Id.ofNat 8) .good)]

def twoMissionsMap : Map Float := (Operation.run twoMissions Map.empty).toOption.getD Map.empty

end LandmarkMap
