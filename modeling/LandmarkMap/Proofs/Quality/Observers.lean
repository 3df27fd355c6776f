import Mathlib.Data.List.Perm.Basic
import LandmarkMap.Proofs.Map.PassFaults

set_option autoImplicit false

namespace LandmarkMap

variable {α : Type} [Scalar α]

-- The ray from a point to a camera.
def Pose.rayFrom (camera : Pose α) (p : Vec3 α) : ObserverRay α := ⟨camera.position - p, (camera.applyInverse p).z⟩

-- The rays that are long enough to have a direction, in the order of the observations.
def usableRays (p : Vec3 α) (cameras : List (Pose α)) : List (ObserverRay α) :=
  (cameras.map (·.rayFrom p)).filter ObserverRay.isUsable

-- A landmark at a place in the world, and the cameras of its observations in their order.
structure Landmark.ObservedBy (l : Landmark α) (g : PoseGraph α) (p : Vec3 α) (cameras : List (Pose α)) : Prop where
  valid : l.id.isValid = true
  located : g.landmarkInGlobal l = .ok p
  observed : List.Forall₂ (fun o camera => g.cameraToGlobal o.vertex o.frame = .ok camera) l.observations cameras

theorem located_triangulated (g : PoseGraph α) (l : Landmark α) (p : Vec3 α) (located : g.landmarkInGlobal l = .ok p) :
    l.isTriangulated = true := by
  rw [PoseGraph.landmarkInGlobal] at located
  rw [Landmark.isTriangulated]
  cases placed : l.position with
  | none =>
      rw [placed] at located
      cases located
  | some q => rfl

theorem camera_ray (g : PoseGraph α) (id : LandmarkId) (p : Vec3 α) (o : Observation) (ray : ObserverRay α) :
    QualityMetrics.rayOf g id p o = .ok ray ↔
      ∃ camera, g.cameraToGlobal o.vertex o.frame = .ok camera ∧ camera.rayFrom p = ray := by
  rw [QualityMetrics.rayOf, require_bind_ok, bind_ok]
  simp only [pure_ok]
  constructor
  · rintro ⟨_, camera, found, rfl⟩
    exact ⟨camera, found, rfl⟩
  · rintro ⟨camera, found, rfl⟩
    obtain ⟨vertex, stored, _⟩ := (bind_ok _ _ _).mp found
    exact ⟨(Table.contains_get _ _).mpr ⟨vertex, (vertex_ok _ _ _).mp stored⟩, camera, found, rfl⟩

theorem camera_rays (g : PoseGraph α) (id : LandmarkId) (p : Vec3 α) (observations : List Observation)
    (rays : List (ObserverRay α)) :
    observations.mapM (fun o => QualityMetrics.rayOf g id p o) = .ok rays ↔
      ∃ cameras, List.Forall₂ (fun o camera => g.cameraToGlobal o.vertex o.frame = .ok camera) observations cameras ∧
        cameras.map (·.rayFrom p) = rays := by
  rw [map_m_ok]
  induction observations generalizing rays with
  | nil => simp
  | cons o rest ih =>
      simp only [List.forall₂_cons_left_iff, ih]
      simp only [camera_ray]
      constructor
      · rintro ⟨_, _, ⟨camera, found, rfl⟩, ⟨cameras, each, rfl⟩, rfl⟩
        exact ⟨camera :: cameras, ⟨camera, cameras, found, each, rfl⟩, rfl⟩
      · rintro ⟨_, ⟨camera, cameras, found, each, rfl⟩, rfl⟩
        exact ⟨camera.rayFrom p, cameras.map (·.rayFrom p), ⟨camera, found, rfl⟩, ⟨cameras, each, rfl⟩, rfl⟩

-- Metrics are computed of a landmark whose observations resolve, and of no other.
theorem computed_metrics (g : PoseGraph α) (l : Landmark α) (metrics : QualityMetrics α) :
    QualityMetrics.compute g l = .ok metrics ↔
      ∃ p cameras, l.ObservedBy g p cameras ∧ QualityMetrics.ofRays (cameras.map (·.rayFrom p)) = metrics := by
  rw [QualityMetrics.compute, require_bind_ok, require_bind_ok, bind_ok]
  simp only [bind_ok, pure_ok, camera_rays]
  constructor
  · rintro ⟨valid, _, p, located, _, ⟨cameras, observed, rfl⟩, rfl⟩
    exact ⟨p, cameras, ⟨valid, located, observed⟩, rfl⟩
  · rintro ⟨p, cameras, ⟨valid, located, observed⟩, rfl⟩
    exact ⟨valid, located_triangulated g l p located, p, located, _, ⟨cameras, observed, rfl⟩, rfl⟩

section Observed

variable {g : PoseGraph α} {l : Landmark α} {p : Vec3 α} {cameras : List (Pose α)} (observed : l.ObservedBy g p cameras)

include observed

theorem observed_metrics : QualityMetrics.compute g l = .ok (QualityMetrics.ofRays (cameras.map (·.rayFrom p))) :=
  (computed_metrics g l _).mpr ⟨p, cameras, observed, rfl⟩

theorem observed_quality (c : QualityConfig α) :
    evaluateQuality g c l = .ok ((QualityMetrics.ofRays (cameras.map (·.rayFrom p))).classify c) := by
  rw [evaluateQuality, observed_metrics observed]
  rfl

theorem cameras_reordered (observations : List Observation) (permuted : observations.Perm l.observations) :
    ∃ others : List (Pose α), others.Perm cameras ∧ ({ l with observations } : Landmark α).ObservedBy g p others := by
  obtain ⟨others, each, same⟩ := List.perm_comp_forall₂ permuted observed.observed
  exact ⟨others, same, observed.valid, observed.located, each⟩

theorem observations_reordered (others : List (Pose α)) (permuted : others.Perm cameras) :
    ∃ observations : List Observation, observations.Perm l.observations ∧
      ({ l with observations } : Landmark α).ObservedBy g p others := by
  obtain ⟨observations, same, each⟩ := (congrFun₂ List.forall₂_comp_perm_eq_perm_comp_forall₂ l.observations others).mp
    ⟨cameras, observed.observed, permuted.symm⟩
  exact ⟨observations, same.symm, observed.valid, observed.located, each⟩

theorem observed_further (more : List Observation) (others : List (Pose α))
    (further : List.Forall₂ (fun o camera => g.cameraToGlobal o.vertex o.frame = .ok camera) more others) :
    ({ l with observations := l.observations ++ more } : Landmark α).ObservedBy g p (cameras ++ others) :=
  ⟨observed.valid, observed.located, List.rel_append observed.observed further⟩

end Observed

theorem classify_good (metrics : QualityMetrics α) (c : QualityConfig α) :
    metrics.classify c = .good ↔ metrics.observers ≠ 0 ∧ c.minObservers ≤ metrics.observers ∧
      QualityMetrics.distanceWithin c.minDistance c.maxDistance metrics.signedDistance = true ∧
      ¬ metrics.maxAngle < Scalar.radians c.minAngleDegrees := by
  rw [QualityMetrics.classify]
  constructor
  · intro good
    split_ifs at good with few apart narrow
    obtain ⟨some, enough⟩ := not_or.mp few
    exact ⟨some, Nat.le_of_not_lt enough, Bool.of_not_eq_false apart, narrow⟩
  · rintro ⟨some, enough, within, wide⟩
    rw [if_neg (not_or.mpr ⟨some, Nat.not_lt.mpr enough⟩), if_neg (by simp [within]), if_neg wide]

-- In a map, all that a landmark needs is a position and observations that resolve.
theorem observed_in_map (map : Map α) (consistent : map.Consistent) (l : Landmark α) (member : l ∈ map.landmarks)
    (triangulated : l.isTriangulated = true)
    (resolves : ∀ o ∈ l.observations, ∃ found, map.toPoseGraph.Resolves o found) :
    ∃ p cameras, l.ObservedBy map.toPoseGraph p cameras := by
  obtain ⟨p, located⟩ := faultless_has_value (map.landmarkInGlobal l) fun broken => by
    rw [landmark_in_global_faults map consistent l member, triangulated] at broken
    cases broken
  obtain ⟨cameras, collected⟩ := faultless_has_value
    (l.observations.mapM fun o => map.cameraToGlobal o.vertex o.frame) fun broken => by
      obtain ⟨o, seen, broken⟩ := (map_m_faults _ _).mp broken
      obtain ⟨found, resolved⟩ := resolves o seen
      rw [resolved_camera map.toPoseGraph o found resolved] at broken
      exact ok_never_faults _ broken
  exact ⟨p, cameras, consistent.valid l member, located, (map_m_ok _ _ _).mp collected⟩

end LandmarkMap
