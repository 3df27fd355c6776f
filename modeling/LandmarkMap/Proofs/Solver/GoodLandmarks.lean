import LandmarkMap.Proofs.Geometry.Bearings
import LandmarkMap.Proofs.Quality.Evaluation
import LandmarkMap.Proofs.Solver.LandmarkBlocks

set_option autoImplicit false

namespace LandmarkMap

variable {α : Type} [Scalar α]

theorem good_has_observers (metrics : QualityMetrics α) (c : QualityConfig α) (good : metrics.classify c = .good) :
    metrics.observers ≠ 0 := by
  intro none
  rw [QualityMetrics.classify, if_pos (.inl none)] at good
  cases good

theorem good_observed (g : PoseGraph α) (c : QualityConfig α) (l : Landmark α)
    (good : evaluateQuality g c l = .ok .good) :
    ∃ first camera, l.observations.head? = some first ∧ g.cameraToGlobal first.vertex first.frame = .ok camera := by
  obtain ⟨metrics, computed, classified⟩ := (bind_ok _ _ _).mp good
  have seen := good_has_observers metrics c ((pure_ok _ _).mp classified)
  rw [QualityMetrics.compute, require_bind_ok, require_bind_ok, bind_ok] at computed
  obtain ⟨_, _, p, _, computed⟩ := computed
  obtain ⟨rays, collected, measured⟩ := (bind_ok _ _ _).mp computed
  cases (pure_ok _ _).mp measured
  have each := (map_m_ok _ _ _).mp collected
  cases observed : l.observations with
  | nil =>
      rw [observed] at each
      cases each
      exact absurd rfl seen
  | cons first rest =>
      rw [observed] at each
      obtain ⟨ray, _, traced, _, _⟩ := List.forall₂_cons_left_iff.mp each
      obtain ⟨camera, located, _⟩ := (bind_ok _ _ _).mp ((require_bind_ok _ _ _ _).mp traced).2
      exact ⟨first, camera, rfl, located⟩

theorem global_anchor (map : Map α) (o : Observation) (camera : Pose α)
    (located : map.cameraToGlobal o.vertex o.frame = .ok camera) : ∃ own, map.cameraToMission o = .ok own := by
  obtain ⟨vertex, observer, located⟩ := (bind_ok _ _ _).mp located
  obtain ⟨mission, home, located⟩ := (bind_ok _ _ _).mp located
  obtain ⟨mount, mounted, _⟩ := (bind_ok _ _ _).mp located
  rw [Map.cameraToMission, observer, ok_bind, home, ok_bind, mounted]
  exact ⟨_, rfl⟩

-- A good landmark has a place, and a camera that saw it first.
theorem good_anchored (map : Map α) (c : QualityConfig α) (l : Landmark α)
    (good : evaluateQuality map.toPoseGraph c l = .ok .good) :
    ∃ point first camera, l.position = some point ∧ l.observations.head? = some first ∧
      map.cameraToMission first = .ok camera := by
  obtain ⟨point, placed⟩ := Option.isSome_iff_exists.mp (evaluated_triangulated map.toPoseGraph c l .good good)
  obtain ⟨first, view, head, viewed⟩ := good_observed map.toPoseGraph c l good
  obtain ⟨camera, located⟩ := global_anchor map first view viewed
  exact ⟨point, first, camera, placed, head, located⟩

-- What stands in a block that belongs to an observation.
structure ResidualBlock.IsOf (b : ResidualBlock α) (g : PoseGraph α) (c : VisualConfig α) (o : Observation) : Prop where
  measurement : ∃ found, g.Resolves o found ∧ b.error.measurement = found.keypoint ∧ b.error.camera = found.mount.camera
  sigma : b.error.pixelSigma = c.pixelSigma
  sizes : b.parameters.map List.length = b.error.blockSizes

theorem block_is_of (g : PoseGraph α) (c : VisualConfig α) (o : Observation) (found : Lookups α) (resolves : g.Resolves o found)
    (positive : 0 < c.pixelSigma) (anchor : Vec3 α) (seen : InverseDepth α) :
    (found.block c positive anchor seen).IsOf g c o := by
  have count : found.mount.camera.distortionParameters.length = found.mount.camera.distortion.kind.count :=
    Vector.length_toList
  exact ⟨⟨found, resolves, rfl, rfl⟩, rfl, (found.error c positive).block_lengths (found.state anchor seen) rfl count⟩

-- Evaluation of all missions leaves no label that it did not find itself.
theorem good_judged [Spectral α] (map after : Map α) (consistent : map.Consistent) (c : QualityConfig α) (p : Parallelism)
    (summary : QualitySummary) (evaluated : map.evaluateAll c p = .ok (after, summary)) (l : Landmark α)
    (member : l ∈ after.landmarks) (good : l.quality = .good) : evaluateQuality after.toPoseGraph c l = .ok .good := by
  obtain ⟨graph, _, judged, _⟩ := evaluated_map map after c p map.missionIds summary evaluated
  obtain ⟨old, there, became⟩ := related_member _ _ _ judged l member
  rw [Landmark.JudgedIn, if_pos (mission_listed map.toPoseGraph old.mission (consistent.homes old there))] at became
  obtain ⟨verdict, found, _, rfl⟩ := became
  cases good
  rw [graph]
  exact found

theorem evaluated_reached [Spectral α] (operations : List (Operation α)) (map after : Map α)
    (done : Operation.run operations Map.empty = .ok map) (c : QualityConfig α) (p : Parallelism) (summary : QualitySummary)
    (evaluated : map.evaluateAll c p = .ok (after, summary)) :
    Operation.run (operations ++ [.pass (.evaluateAll c p)]) Map.empty = .ok after := by
  have passed : (Operation.pass (.evaluateAll c p)).apply map = .ok after := (map_ok _ _ _).mpr ⟨_, evaluated, rfl⟩
  rw [Operation.run, List.foldlM_append]
  refine (bind_ok _ _ _).mpr ⟨map, done, ?_⟩
  rw [List.foldlM_cons, passed]
  rfl

theorem unlinked_evaluation (operations : List (Operation α)) (c : QualityConfig α) (p : Parallelism)
    (unlinked : ∀ operation ∈ operations, operation.Unlinked) :
    ∀ operation ∈ operations ++ [.pass (.evaluateAll c p)], operation.Unlinked := by
  intro operation listed
  rcases List.mem_append.mp listed with earlier | last
  · exact unlinked operation earlier
  · cases List.mem_singleton.mp last
    trivial

-- The solver takes a good landmark unless the camera that saw it first stands on it, or too far off for
-- the distance to be a number. Only a landmark that was brought in with observations can lack a keypoint.
theorem good_landmark_blocks [Spectral α] (operations : List (Operation α)) (map after : Map α)
    (done : Operation.run operations Map.empty = .ok map) (c : QualityConfig α) (p : Parallelism) (summary : QualitySummary)
    (evaluated : map.evaluateAll c p = .ok (after, summary)) (config : VisualConfig α) (positive : 0 < config.pixelSigma)
    (l : Landmark α) (member : l ∈ after.landmarks) (good : l.quality = .good) :
    ∃ point first camera, l.position = some point ∧ l.observations.head? = some first ∧
      after.cameraToMission first = .ok camera ∧
      (point.ApartFrom camera.position → (∀ o ∈ l.observations, after.HasKeypoint o) →
        ∃ blocks, after.residualBlocks config l.id = .ok blocks ∧
          List.Forall₂ (fun o b => b.IsOf after.toPoseGraph config o) l.observations blocks) ∧
      (¬ point.ApartFrom camera.position → after.residualBlocks config l.id = .error (.error .landmarkAtAnchor)) ∧
      ((∀ operation ∈ operations, operation.Unlinked) → ∀ o ∈ l.observations, after.HasKeypoint o) := by
  have reached := evaluated_reached operations map after done c p summary evaluated
  have consistent := run_consistent _ after reached
  have stored := found_landmark after l consistent member
  have judged := good_judged map after (run_consistent operations map done) c p summary evaluated l member good
  obtain ⟨point, first, camera, placed, head, located⟩ := good_anchored after c l judged
  refine ⟨point, first, camera, placed, head, located, ?_, ?_, ?_⟩
  · intro apart keypoints
    obtain ⟨_, _, pointed⟩ := anchored point camera.position apart
    obtain ⟨blocks, built, each⟩ := resolved_blocks after config l stored point placed first head camera located _ pointed
      positive fun o observed => keypoint_resolves after.toPoseGraph consistent.graph o (keypoints o observed)
    refine ⟨blocks, built, each.imp fun o b made => ?_⟩
    obtain ⟨found, resolves, rfl⟩ := made
    exact block_is_of after.toPoseGraph config o found resolves positive _ _
  · intro close
    exact residual_blocks_refused after config l stored point placed first head camera located (not_anchored point _ close)
  · intro unlinked o observed
    obtain ⟨_, linked⟩ := run_linked _ after (unlinked_evaluation operations c p unlinked) reached
    exact observed_keypoint after consistent linked l member o observed

-- A landmark that is seen from the root of its mission and from a vertex that stands on it.

def standingVertex (id : VertexId) (p : Vec3 Float) : Vertex Float :=
  ⟨id, Id.ofNat 1, ⟨0⟩, BodyState.atPose (Pose.atPosition p), [Frame.empty]⟩

def touchingViews (first second : VertexId) : List (Operation Float) :=
  [.addMission (Id.ofNat 1) Pose.identity ⟨[⟨plainCamera, Pose.identity⟩]⟩,
    .addVertex (standingVertex (Id.ofNat 2) ⟨0, 0, 0⟩) (.create (Id.ofNat 2) (Id.ofNat 1) ⟨0⟩ _ 1 _ rfl),
    .addVertex (standingVertex (Id.ofNat 3) ⟨0, 0, 4⟩) (.create (Id.ofNat 3) (Id.ofNat 1) ⟨0⟩ _ 1 _ rfl),
    .addLandmark ⟨Id.ofNat 5, Id.ofNat 1, none, .unknown, []⟩ fresh_landmark_built,
    .addObservation (Id.ofNat 5) first 0 ⟨367, 248⟩,
    .addObservation (Id.ofNat 5) second 0 ⟨367, 248⟩,
    .pass (.setPosition (Id.ofNat 5) ⟨0, 0, 4⟩)]

def oneObserver : QualityConfig Float := ⟨0, 1, 50, 0.1⟩

def touchingMap (first second : VertexId) : Map Float :=
  (Operation.run (touchingViews first second) Map.empty).toOption.getD Map.empty

def judgedTouching (first second : VertexId) : Map Float × QualitySummary :=
  ((touchingMap first second).evaluateAll oneObserver Parallelism.single).toOption.getD (Map.empty, ⟨0, 0, 0⟩)

theorem touching_unlinked (first second : VertexId) : ∀ operation ∈ touchingViews first second, operation.Unlinked := by
  simp [touchingViews, Operation.Unlinked, standingVertex]

theorem touching_done (first second : VertexId)
    (there : (Operation.run (touchingViews first second) Map.empty).toOption.isSome = true) :
    Operation.run (touchingViews first second) Map.empty = .ok (touchingMap first second) :=
  value_or _ _ there

theorem touching_judged (first second : VertexId)
    (there : ((touchingMap first second).evaluateAll oneObserver Parallelism.single).toOption.isSome = true) :
    (touchingMap first second).evaluateAll oneObserver Parallelism.single = .ok (judgedTouching first second) :=
  value_or _ _ there

theorem touching_blocks :
    ∃ l blocks, (∀ operation ∈ touchingViews (Id.ofNat 2) (Id.ofNat 3), operation.Unlinked) ∧
      Operation.run (touchingViews (Id.ofNat 2) (Id.ofNat 3)) Map.empty = .ok (touchingMap (Id.ofNat 2) (Id.ofNat 3)) ∧
      (touchingMap (Id.ofNat 2) (Id.ofNat 3)).evaluateAll oneObserver Parallelism.single =
        .ok (judgedTouching (Id.ofNat 2) (Id.ofNat 3)) ∧
      0 < (default : VisualConfig Float).pixelSigma ∧ l ∈ (judgedTouching (Id.ofNat 2) (Id.ofNat 3)).1.landmarks ∧
      l.quality = .good ∧ (judgedTouching (Id.ofNat 2) (Id.ofNat 3)).1.residualBlocks default l.id = .ok blocks ∧
      blocks.length = 2 := by
  have unlinked := touching_unlinked (Id.ofNat 2) (Id.ofNat 3)
  have done := touching_done (Id.ofNat 2) (Id.ofNat 3) (by decide +kernel)
  have judged := touching_judged (Id.ofNat 2) (Id.ofNat 3) (by decide +kernel)
  have positive : 0 < (default : VisualConfig Float).pixelSigma := by decide +kernel
  have shown : (Quality.good, some (⟨0, 0, 4⟩ : Vec3 Float), [⟨Id.ofNat 2, 0, 0⟩, ⟨Id.ofNat 3, 0, 0⟩]) ∈
      (judgedTouching (Id.ofNat 2) (Id.ofNat 3)).1.landmarks.map fun l => (l.quality, l.position, l.observations) := by
    decide +kernel
  obtain ⟨l, member, same⟩ := List.mem_map.mp shown
  simp only [Prod.mk.injEq] at same
  obtain ⟨good, placed, observed⟩ := same
  obtain ⟨point, first, camera, at_point, head, located, taken, _, keypoints⟩ :=
    good_landmark_blocks _ _ (judgedTouching (Id.ofNat 2) (Id.ofNat 3)).1 done oneObserver Parallelism.single
      (judgedTouching (Id.ofNat 2) (Id.ofNat 3)).2 judged default positive l member good
  cases placed.symm.trans at_point
  rw [observed] at head
  cases head
  have away : ((judgedTouching (Id.ofNat 2) (Id.ofNat 3)).1.cameraToMission ⟨Id.ofNat 2, 0, 0⟩).toOption.map (fun camera =>
      decide ((⟨0, 0, 4⟩ : Vec3 Float).ApartFrom camera.position)) = some true := by
    decide +kernel
  rw [located] at away
  obtain ⟨blocks, built, each⟩ := taken (of_decide_eq_true (Option.some.inj away)) (keypoints unlinked)
  refine ⟨l, blocks, unlinked, done, judged, positive, member, good, built, ?_⟩
  rw [← each.length_eq, observed]
  rfl

-- With the observations the other way round, the landmark is as good, and the solver cannot have it.
theorem touching_refused :
    ∃ l, (∀ operation ∈ touchingViews (Id.ofNat 3) (Id.ofNat 2), operation.Unlinked) ∧
      Operation.run (touchingViews (Id.ofNat 3) (Id.ofNat 2)) Map.empty = .ok (touchingMap (Id.ofNat 3) (Id.ofNat 2)) ∧
      oneObserver.validate = .ok () ∧ 0 < (default : VisualConfig Float).pixelSigma ∧
      (touchingMap (Id.ofNat 3) (Id.ofNat 2)).evaluateAll oneObserver Parallelism.single =
        .ok (judgedTouching (Id.ofNat 3) (Id.ofNat 2)) ∧
      l ∈ (judgedTouching (Id.ofNat 3) (Id.ofNat 2)).1.landmarks ∧ l.quality = .good ∧
      (judgedTouching (Id.ofNat 3) (Id.ofNat 2)).1.residualBlocks default l.id = .error (.error .landmarkAtAnchor) := by
  have unlinked := touching_unlinked (Id.ofNat 3) (Id.ofNat 2)
  have done := touching_done (Id.ofNat 3) (Id.ofNat 2) (by decide +kernel)
  have judged := touching_judged (Id.ofNat 3) (Id.ofNat 2) (by decide +kernel)
  have shown : (Id.ofNat 5, Quality.good) ∈
      (judgedTouching (Id.ofNat 3) (Id.ofNat 2)).1.landmarks.map fun l => (l.id, l.quality) := by
    decide +kernel
  obtain ⟨l, member, same⟩ := List.mem_map.mp shown
  simp only [Prod.mk.injEq] at same
  obtain ⟨named, good⟩ := same
  have refused : (match (judgedTouching (Id.ofNat 3) (Id.ofNat 2)).1.residualBlocks default (Id.ofNat 5) with
      | .error (.error .landmarkAtAnchor) => true
      | _ => false) = true := by
    decide +kernel
  refine ⟨l, unlinked, done, value_or oneObserver.validate () (by decide +kernel), by decide +kernel, judged, member, good, ?_⟩
  rw [named]
  split at refused
  · assumption
  · cases refused

end LandmarkMap
