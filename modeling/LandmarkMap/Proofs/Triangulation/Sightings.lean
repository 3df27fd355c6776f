import LandmarkMap.Proofs.Triangulation.Retriangulation

set_option autoImplicit false

namespace LandmarkMap

variable {α : Type}

def Sightings.sights (s : Sightings α) : List (Sight α) := s.bearings.zipWith Sight.mk s.centers

def Sightings.ofSights (sights : List (Sight α)) : Sightings α := ⟨sights.map (·.bearing), sights.map (·.center)⟩

theorem listed_sights (sights : List (Sight α)) : (Sightings.ofSights sights).sights = sights := by
  rw [Sightings.sights, Sightings.ofSights, List.zipWith_map, List.zipWith_self]
  exact List.map_id' sights

variable [Scalar α]

-- The lines of sight of the observations that have one, in their order.
def sightsOf (g : PoseGraph α) (l : Landmark α) : Except (Fault α) (List (Sight α)) :=
  (fun found => found.filterMap id) <$> l.observations.mapM (sightOf? g)

def Sightings.addSeen (s : Sightings α) (seen : Option (Sight α)) : Sightings α := seen.elim s s.add

theorem sightings_steps (g : PoseGraph α) (l : Landmark α) :
    sightingsOf g l = l.observations.foldlM (fun s o => s.addSeen <$> sightOf? g o) ⟨[], []⟩ := by
  rw [sightingsOf]
  congr 1
  funext s o
  cases sightOf? g o with
  | error fault => rfl
  | ok seen => cases seen <;> rfl

-- The two lists grow at their ends, so that the induction carries what is in them already.
theorem sightings_grow (g : PoseGraph α) (observations : List Observation) (before : List (Sight α)) :
    observations.foldlM (fun s o => s.addSeen <$> sightOf? g o) (Sightings.ofSights before) =
      (fun found => Sightings.ofSights (before ++ found.filterMap id)) <$> observations.mapM (sightOf? g) := by
  induction observations generalizing before with
  | nil => exact congrArg Except.ok (congrArg Sightings.ofSights (List.append_nil before).symm)
  | cons o rest ih =>
      rw [List.foldlM_cons, List.mapM_cons]
      cases sightOf? g o with
      | error fault => rfl
      | ok seen =>
          cases seen with
          | none =>
              change rest.foldlM _ (Sightings.ofSights before) = _
              rw [ok_bind, ih before]
              cases rest.mapM (sightOf? g) <;> rfl
          | some sight =>
              have next : (Sightings.ofSights before).add sight = Sightings.ofSights (before ++ [sight]) := by
                simp [Sightings.add, Sightings.ofSights]
              change rest.foldlM _ ((Sightings.ofSights before).add sight) = _
              rw [ok_bind, next, ih (before ++ [sight])]
              cases rest.mapM (sightOf? g) with
              | error fault => rfl
              | ok found => exact congrArg Except.ok (congrArg Sightings.ofSights (List.append_assoc _ _ _))

theorem sightings_sights (g : PoseGraph α) (l : Landmark α) :
    sightingsOf g l = Sightings.ofSights <$> sightsOf g l := by
  rw [sightings_steps, sightsOf, ← comp_map]
  exact sightings_grow g l.observations []

theorem triangulation_sights [Spectral α] (g : PoseGraph α) (l : Landmark α) :
    triangulationOf g l = Triangulation.ofSights <$> sightsOf g l := by
  rw [triangulationOf, sightings_sights]
  cases sightsOf g l with
  | error fault => rfl
  | ok sights =>
      have paired : (Sightings.ofSights sights).bearings.length = (Sightings.ofSights sights).centers.length := by
        simp [Sightings.ofSights]
      change Triangulation.linear _ _ = Except.ok _
      rw [Triangulation.linear, require_bind _ _ _ paired]
      exact congrArg Except.ok (congrArg Triangulation.ofSights (listed_sights sights))

-- Where every observation has a line of sight, none is left out.
theorem sights_found (g : PoseGraph α) (l : Landmark α) (holds : Sight α → Prop)
    (each : ∀ o ∈ l.observations, ∃ sight, sightOf? g o = .ok (some sight) ∧ holds sight) :
    ∃ sights, sightsOf g l = .ok sights ∧ sights.length = l.observations.length ∧ ∀ s ∈ sights, holds s := by
  rw [sightsOf]
  generalize l.observations = observations at each
  induction observations with
  | nil => exact ⟨[], rfl, rfl, fun s member => by cases member⟩
  | cons o rest ih =>
      obtain ⟨sight, seen, first⟩ := each o List.mem_cons_self
      obtain ⟨sights, found, length, others⟩ := ih fun o member => each o (List.mem_cons_of_mem _ member)
      obtain ⟨all, done, rfl⟩ := (map_ok _ _ _).mp found
      refine ⟨sight :: all.filterMap id, ?_, congrArg Nat.succ length, List.forall_mem_cons.mpr ⟨first, others⟩⟩
      rw [List.mapM_cons, seen, ok_bind, done]
      rfl

-- A landmark moves with the result, by the frame of its own mission.
def settle (g : PoseGraph α) (l : Landmark α) :
    TriangulationResult α → Except (Fault α) (Landmark α × TriangulationResult α)
  | .successful p => (fun own => (l.place (own.applyInverse p), .successful p)) <$> g.missionToGlobal l.mission
  | .tooFewMeasurements => .ok (l, .tooFewMeasurements)
  | .unobservable => .ok (l, .unobservable)

theorem retriangulate_settles [Spectral α] (g : PoseGraph α) (l : Landmark α) :
    retriangulate g l = triangulationOf g l >>= settle g l := by
  rw [retriangulate, triangulationOf, bind_assoc]
  congr 1
  funext sightings
  congr 1
  funext result
  cases result with
  | successful p =>
      rw [settle, map_eq_pure_bind]
  | tooFewMeasurements => rfl
  | unobservable => rfl

end LandmarkMap
