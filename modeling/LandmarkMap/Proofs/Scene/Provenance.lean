import LandmarkMap.Proofs.Map.ObservationGraph
import LandmarkMap.Proofs.Scene.Totality

set_option autoImplicit false

namespace LandmarkMap

variable {α : Type} [Scalar α] [Spectral α]

-- Maps that the operations lead to.
def Map.Reached (map : Map α) : Prop :=
  ∃ operations : List (Operation α), (∀ operation ∈ operations, operation.Unlinked) ∧
    Operation.run operations Map.empty = .ok map

theorem empty_reached : (Map.empty : Map α).Reached := 
  ⟨[], ⟨fun _ member => absurd member List.not_mem_nil, rfl⟩⟩

theorem operation_reaches (operation : Operation α) (unlinked : operation.Unlinked) (before after : Map α)
    (reached : before.Reached) (done : operation.apply before = .ok after) : after.Reached := by
  obtain ⟨operations, allowed, run⟩ := reached
  refine ⟨operations ++ [operation], fun other member => ?_, ?_⟩
  · rcases List.mem_append.mp member with old | new
    · exact allowed other old
    · exact List.mem_singleton.mp new ▸ unlinked
  · rw [Operation.run] at run
    rw [Operation.run, List.foldlM_append, run, ok_bind, List.foldlM_cons, done]
    rfl

theorem reached_linked (map : Map α) (reached : map.Reached) : map.Consistent ∧ map.Linked := by
  obtain ⟨operations, unlinked, run⟩ := reached
  exact run_linked operations map unlinked run

namespace Scene

variable (c : SceneConfig α) (source : RandomSource α)

theorem update_reaches {β : Type} (operation : Operation α) (unlinked : operation.Unlinked) (update : Update α β)
    (d after : Draft α) (same : operation.apply d.map = update.perform d.map) (reached : d.map.Reached)
    (done : d.update update = .ok after) : after.map.Reached := by
  rw [draft_update] at done
  obtain ⟨map, performed, rfl⟩ := (map_ok _ _ _).mp done
  exact operation_reaches operation unlinked d.map map reached (same.trans performed)

theorem add_vertices_reaches (d after : Draft α) (reached : d.map.Reached) (done : addVertices c home d = .ok after) :
    after.map.Reached := by
  obtain ⟨_, _, done⟩ := (bind_ok _ _ _).mp done
  refine fold_keeps _ (fun _ d => d.map.Reached) d reached ?_ _ after done
  intro _ i before next sofar stepped
  obtain ⟨v, made, updated⟩ := (bind_ok _ _ _).mp stepped
  have built : v.Built := .create _ _ _ _ _ v made
  have bare : ∀ f ∈ v.frames, f = Frame.empty := by
    obtain ⟨_, rfl⟩ := created_vertex _ _ _ _ _ v made
    exact fun f member => List.eq_of_mem_replicate member
  exact update_reaches (.addVertex v built) bare _ before next rfl sofar updated

theorem observe_reaches (id : LandmarkId) (p : Vec3 α) (i frame : Nat) (mount : MountedCamera α) (d after : Draft α)
    (reached : d.map.Reached) (done : observe c source id p i frame mount d = .ok after) : after.map.Reached := by
  obtain ⟨projection, _, done⟩ := (bind_ok _ _ _).mp done
  by_cases visible : projection.outcome = .visible
  · rw [if_neg (not_not_intro visible)] at done
    obtain ⟨next, updated, last⟩ := (bind_ok _ _ _).mp done
    cases last
    exact update_reaches (.addObservation _ _ _ _) trivial _ d next rfl reached updated
  · rw [if_pos visible] at done
    cases done
    exact reached

theorem add_landmark_reaches (rig : Rig α) (i : Nat) (d : Draft α) (after : Draft α × (LandmarkId × Vec3 α))
    (reached : d.map.Reached) (done : addLandmark c source home rig d i = .ok after) : after.1.map.Reached := by
  obtain ⟨⟨p, draws⟩, _, done⟩ := (bind_ok _ _ _).mp done
  obtain ⟨landmark, made, done⟩ := (bind_ok _ _ _).mp done
  obtain ⟨bare, added, done⟩ := (bind_ok _ _ _).mp done
  obtain ⟨full, looked, done⟩ := (bind_ok _ _ _).mp done
  cases done
  have built : landmark.Built := .create _ _ landmark made
  have unseen : (landmark.place p).observations = [] := by
    obtain ⟨_, same⟩ := (require_bind_ok _ _ _ _).mp made
    cases (pure_ok _ _).mp same
    rfl
  have start : bare.map.Reached :=
    update_reaches (.addLandmark (landmark.place p) (.place landmark p built)) unseen _ { d with draws } bare rfl reached added
  exact fold_keeps _ (fun _ d => d.map.Reached) bare start
    (fun _ view before next sofar stepped => observe_reaches c source _ p view.1 view.2.2 view.2.1 before next sofar stepped)
    _ full looked

theorem add_landmarks_reaches (rig : Rig α) (n i : Nat) (d : Draft α) (after : Draft α × List (LandmarkId × Vec3 α))
    (reached : d.map.Reached) (done : addLandmarks c source home rig n i d = .ok after) : after.1.map.Reached := by
  induction n generalizing i d after with
  | zero =>
      cases done
      exact reached
  | succ n ih =>
      obtain ⟨first, added, done⟩ := (bind_ok _ _ _).mp done
      obtain ⟨rest, later, done⟩ := (bind_ok _ _ _).mp done
      cases done
      exact ih (i + 1) first.1 rest (add_landmark_reaches c source rig i d first reached added) later

-- A scene is built by the operations on maps alone, so that what is true after every run is true of it.
theorem built_reached (s : Scene α) (built : build c source = .ok s) : s.map.Reached := by
  obtain ⟨_, rig, _, _, _, done⟩ := built_parts c source s built
  obtain ⟨mission, made, done⟩ := (bind_ok _ _ _).mp done
  obtain ⟨bare, placed, done⟩ := (bind_ok _ _ _).mp done
  obtain ⟨staged, added, done⟩ := (bind_ok _ _ _).mp done
  obtain ⟨count, _, done⟩ := (bind_ok _ _ _).mp done
  obtain ⟨full, looked, done⟩ := (bind_ok _ _ _).mp done
  cases done
  have same : (Operation.addMission home Pose.identity rig).apply Map.empty = (Map.addMission mission).perform Map.empty := by
    rw [Operation.apply, made, ok_bind]
  have start := update_reaches (.addMission home Pose.identity rig) trivial _ ⟨Map.empty, 0⟩ bare same empty_reached placed
  exact add_landmarks_reaches c source rig count 0 staged full (add_vertices_reaches c bare staged start added) looked

theorem built_graph_exact (s : Scene α) (built : build c source = .ok s) : s.map.Consistent ∧ s.map.ObservationsExact := by
  obtain ⟨consistent, linked⟩ := reached_linked s.map (built_reached c source s built)
  exact ⟨consistent, linked_exact s.map consistent linked⟩

end Scene

end LandmarkMap
