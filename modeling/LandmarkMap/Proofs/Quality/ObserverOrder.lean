import LandmarkMap.Proofs.Quality.Reference

set_option autoImplicit false

namespace LandmarkMap

namespace Vec3

variable (p : Vec3 ℝ) (observers : List (Pose ℝ))

structure Closest (camera : Pose ℝ) : Prop where
  member : camera ∈ observers
  least : dist camera.position.point p.point ∈ lowerBounds (p.distances observers)

-- All of the closest cameras have the point behind them, or none of them has.
def OneSided : Prop :=
  ∀ a b, p.Closest observers a → p.Closest observers b → ((a.applyInverse p).z < 0 ↔ (b.applyInverse p).z < 0)

end Vec3

section Described

variable {p : Vec3 ℝ} {observers others : List (Pose ℝ)} {metrics found : QualityMetrics ℝ}

theorem distances_permuted (same : others.Perm observers) : p.distances others = p.distances observers := by
  ext distance
  simp only [Vec3.distances, Set.mem_ofPred_eq, same.mem_iff]

theorem angles_permuted (same : others.Perm observers) : p.angles others = p.angles observers := by
  ext angle
  constructor
  · rintro ⟨a, b, pair, rfl⟩
    exact ⟨a, b, pair.trans same.subperm, rfl⟩
  · rintro ⟨a, b, pair, rfl⟩
    exact ⟨a, b, pair.trans same.symm.subperm, rfl⟩

theorem first_is_closest (camera : Pose ℝ) (first : p.FirstClosest observers camera) : p.Closest observers camera :=
  ⟨first_closest_member p observers camera first, (first_closest_least p observers camera first).2⟩

-- But for the sign of the distance, the metrics are the same in every order.
theorem described_permuted (same : others.Perm observers) (described : metrics.Describes p observers)
    (again : found.Describes p others) :
    found.observers = metrics.observers ∧ found.signedDistance.map abs = metrics.signedDistance.map abs ∧
      found.maxAngle = metrics.maxAngle := by
  refine ⟨again.count.trans (same.length_eq.trans described.count.symm), ?_, ?_⟩
  · cases measured : metrics.signedDistance with
    | none =>
        have none : others = [] := (described.unobserved.mp measured ▸ same).eq_nil
        rw [again.unobserved.mpr none]
    | some d =>
        cases repeated : found.signedDistance with
        | none =>
            have none : observers = [] := (again.unobserved.mp repeated ▸ same).symm.eq_nil
            cases measured.symm.trans (described.unobserved.mpr none)
        | some e =>
            have least := again.distance e repeated
            rw [distances_permuted same] at least
            exact congrArg some (least.unique (described.distance d measured))
  · by_cases pair : 2 ≤ observers.length
    · have widest := again.widest (same.length_eq ▸ pair)
      rw [angles_permuted same] at widest
      exact widest.unique (described.widest pair)
    · rw [described.narrow (not_le.mp pair), again.narrow (same.length_eq ▸ not_le.mp pair)]

theorem closest_permuted (same : others.Perm observers) (camera : Pose ℝ) :
    p.Closest others camera ↔ p.Closest observers camera := by
  constructor
  · rintro ⟨member, least⟩
    exact ⟨same.mem_iff.mp member, distances_permuted same ▸ least⟩
  · rintro ⟨member, least⟩
    exact ⟨same.mem_iff.mpr member, (distances_permuted same).symm ▸ least⟩

theorem one_side_described (same : others.Perm observers) (described : metrics.Describes p observers)
    (again : found.Describes p others) (oneSided : p.OneSided observers) : found = metrics := by
  obtain ⟨count, size, wide⟩ := described_permuted same described again
  have distance : found.signedDistance = metrics.signedDistance := by
    cases measured : metrics.signedDistance with
    | none => exact Option.map_eq_none_iff.mp (by rw [size, measured]; rfl)
    | some d =>
        obtain ⟨e, repeated, same_size⟩ := Option.map_eq_some_iff.mp (size.trans (congrArg _ measured))
        obtain ⟨a, first, side⟩ := described.side d measured
        obtain ⟨b, leader, sign⟩ := again.side e repeated
        have sides := oneSided b a ((closest_permuted same b).mp (first_is_closest b leader)) (first_is_closest a first)
        rw [repeated, same_size_and_side d e same_size (sign.trans (sides.trans side.symm))]
  cases found
  cases metrics
  exact (QualityMetrics.mk.injEq ..).mpr ⟨count, distance, wide⟩

-- Where one of the closest cameras comes first, the sign is its own.
theorem leading_side (camera : Pose ℝ) (rest : List (Pose ℝ)) (closest : p.Closest (camera :: rest) camera)
    (described : metrics.Describes p (camera :: rest)) :
    ∃ d, metrics.signedDistance = some d ∧ (d < 0 ↔ (camera.applyInverse p).z < 0) := by
  cases measured : metrics.signedDistance with
  | none => cases described.unobserved.mp measured
  | some d =>
      obtain ⟨first, leads, side⟩ := described.side d measured
      obtain ⟨earlier, later, split, farther, _⟩ := leads
      rcases List.cons_eq_append_iff.mp split with ⟨_, whole⟩ | ⟨tail, rfl, _⟩
      · cases whole
        exact ⟨d, rfl, side⟩
      · have below := closest.least ⟨first, by simp [split], rfl⟩
        exact absurd (farther camera List.mem_cons_self) (not_lt.mpr below)

end Described

theorem observers_reordered (p : Vec3 ℝ) (cameras others : List (Pose ℝ)) (permuted : others.Perm cameras) :
    (p.observers others).Perm (p.observers cameras) :=
  permuted.filter _

-- Any observer can be the first to observe.
theorem observer_first (p : Vec3 ℝ) (cameras : List (Pose ℝ)) (camera : Pose ℝ) (member : camera ∈ p.observers cameras) :
    ∃ others rest, others.Perm cameras ∧ p.observers others = camera :: rest := by
  obtain ⟨listed, apart⟩ := List.mem_filter.mp member
  obtain ⟨before, after, rfl⟩ := List.append_of_mem listed
  exact ⟨camera :: (before ++ after), p.observers (before ++ after), List.perm_middle.symm, List.filter_cons_of_pos apart⟩

section Reordered

variable {g : PoseGraph ℝ} {l : Landmark ℝ} {p : Vec3 ℝ} {cameras : List (Pose ℝ)} (observed : l.ObservedBy g p cameras)

include observed

theorem one_side_kept (oneSided : p.OneSided (p.observers cameras)) (observations : List Observation)
    (permuted : observations.Perm l.observations) :
    QualityMetrics.compute g { l with observations } = QualityMetrics.compute g l := by
  obtain ⟨others, same, again⟩ := cameras_reordered observed observations permuted
  rw [observed_metrics again, observed_metrics observed, one_side_described (observers_reordered p cameras others same)
    (metrics_described p cameras) (metrics_described p others) oneSided]

-- Metrics that no order changes have the side of whichever of the closest cameras comes first.
theorem side_of_closest (metrics : QualityMetrics ℝ)
    (always : ∀ observations : List Observation, observations.Perm l.observations →
      QualityMetrics.compute g { l with observations } = .ok metrics)
    (camera : Pose ℝ) (closest : p.Closest (p.observers cameras) camera) :
    ∃ d, metrics.signedDistance = some d ∧ (d < 0 ↔ (camera.applyInverse p).z < 0) := by
  obtain ⟨others, rest, same, leads⟩ := observer_first p cameras camera closest.member
  obtain ⟨observations, permuted, again⟩ := observations_reordered observed others same
  have leading := (closest_permuted (observers_reordered p cameras others same) camera).mpr closest
  have described := metrics_described p others
  rw [Except.ok.inj ((observed_metrics again).symm.trans (always observations permuted)), leads] at described
  exact leading_side camera rest (leads ▸ leading) described

end Reordered

theorem metrics_under_reordering (g : PoseGraph ℝ) (l : Landmark ℝ) (p : Vec3 ℝ) (cameras : List (Pose ℝ))
    (observed : l.ObservedBy g p cameras) :
    ∃ metrics, QualityMetrics.compute g l = .ok metrics ∧
      (∀ observations : List Observation, observations.Perm l.observations →
        ∃ found, QualityMetrics.compute g { l with observations } = .ok found ∧ found.observers = metrics.observers ∧
          found.signedDistance.map abs = metrics.signedDistance.map abs ∧ found.maxAngle = metrics.maxAngle) ∧
      ((∀ observations : List Observation, observations.Perm l.observations →
        QualityMetrics.compute g { l with observations } = .ok metrics) ↔ p.OneSided (p.observers cameras)) ∧
      (p.OneSided (p.observers cameras) → ∀ c, ∀ observations : List Observation, observations.Perm l.observations →
        evaluateQuality g c { l with observations } = evaluateQuality g c l) := by
  refine ⟨_, observed_metrics observed, ?_, ⟨?_, ?_⟩, ?_⟩
  · intro observations permuted
    obtain ⟨others, same, again⟩ := cameras_reordered observed observations permuted
    exact ⟨_, observed_metrics again, described_permuted (observers_reordered p cameras others same)
      (metrics_described p cameras) (metrics_described p others)⟩
  · intro always a b first second
    obtain ⟨d, measured, side⟩ := side_of_closest observed _ always a first
    obtain ⟨e, repeated, again⟩ := side_of_closest observed _ always b second
    cases measured.symm.trans repeated
    exact side.symm.trans again
  · intro oneSided observations permuted
    rw [one_side_kept observed oneSided observations permuted, observed_metrics observed]
  · intro oneSided c observations permuted
    rw [evaluateQuality, evaluateQuality, one_side_kept observed oneSided observations permuted]

-- A landmark in the middle of two observers is as far from both, and only one of them has it in front.

theorem facing_computed (height : ℝ) (unit : |height| = 1) (l : Landmark ℝ)
    (observed : l.ObservedBy facedMap.toPoseGraph ⟨0, 0, 0⟩ (facingCameras height)) :
    QualityMetrics.compute facedMap.toPoseGraph l = .ok ⟨2, some height, Real.pi⟩ := by
  have described := metrics_described ⟨0, 0, 0⟩ (facingCameras height)
  rw [facing_observers height unit] at described
  rw [observed_metrics observed, facing_metrics height unit _ described]

theorem faced_good : evaluateQuality facedMap.toPoseGraph ⟨5, 2, 50, 0.1⟩ facedLandmark = .ok .good := by
  rw [evaluateQuality, facing_computed 1 abs_one _ faced_observed]
  exact congrArg Except.ok ((classify_meets _ _).mpr ((facing_meets 1).mpr (by norm_num)))

noncomputable def facedFromBehind : Landmark ℝ :=
  { facedLandmark with observations := [⟨touchingObserver, 0, 0⟩, ⟨secondObserver, 0, 0⟩, ⟨firstObserver, 0, 0⟩] }

theorem behind_observed : facedFromBehind.ObservedBy facedMap.toPoseGraph ⟨0, 0, 0⟩ (facingCameras (-1)) := by
  obtain ⟨valid, located, observed⟩ := faced_observed
  obtain _ | ⟨touching, _ | ⟨first, _ | ⟨second, _⟩⟩⟩ := observed
  refine ⟨valid, located, .cons touching (.cons ?_ (.cons first .nil))⟩
  rw [neg_neg]
  exact second

noncomputable def facedFromFront : Landmark ℝ :=
  { facedLandmark with observations := [⟨touchingObserver, 0, 0⟩, ⟨firstObserver, 0, 0⟩] }

theorem front_observed :
    facedFromFront.ObservedBy facedMap.toPoseGraph ⟨0, 0, 0⟩ [Pose.atPosition ⟨0, 0, 0⟩, Pose.atPosition ⟨0, 0, -1⟩] := by
  obtain ⟨valid, located, observed⟩ := faced_observed
  obtain _ | ⟨touching, _ | ⟨first, _⟩⟩ := observed
  exact ⟨valid, located, .cons touching (.cons first .nil)⟩

theorem front_one_sided :
    Vec3.OneSided ⟨0, 0, 0⟩ (Vec3.observers ⟨0, 0, 0⟩ [Pose.atPosition ⟨0, 0, 0⟩, Pose.atPosition ⟨0, 0, -1⟩]) := by
  have touching : ¬ (1e-12 : ℝ) < 0 := by norm_num
  have away : (1e-12 : ℝ) < 1 := by norm_num
  have single : Vec3.observers ⟨0, 0, 0⟩ [Pose.atPosition ⟨0, 0, 0⟩, Pose.atPosition ⟨0, 0, -1⟩] =
      [Pose.atPosition ⟨0, 0, -1⟩] := by
    simp [Vec3.observers, Pose.atPosition, axis_distance, touching, away]
  intro a b first second
  rw [single] at first second
  cases List.mem_singleton.mp first.member
  cases List.mem_singleton.mp second.member
  exact Iff.rfl

theorem facing_two_sided : ¬ Vec3.OneSided ⟨0, 0, 0⟩ (Vec3.observers ⟨0, 0, 0⟩ (facingCameras 1)) := by
  have closest : ∀ camera ∈ [Pose.atPosition (⟨0, 0, -1⟩ : Vec3 ℝ), Pose.atPosition ⟨0, 0, 1⟩],
      Vec3.Closest ⟨0, 0, 0⟩ [Pose.atPosition ⟨0, 0, -1⟩, Pose.atPosition ⟨0, 0, 1⟩] camera := by
    intro camera member
    refine ⟨member, ?_⟩
    have distance : dist camera.position.point (Vec3.point ⟨0, 0, 0⟩) ∈ ({1} : Set ℝ) :=
      facing_distances 1 abs_one ▸ ⟨camera, member, rfl⟩
    rw [facing_distances 1 abs_one, Set.mem_singleton_iff.mp distance]
    exact (isLeast_singleton).2
  intro oneSided
  rw [facing_observers 1 abs_one] at oneSided
  have same := oneSided _ _ (closest _ List.mem_cons_self) (closest _ (List.mem_cons_of_mem _ List.mem_cons_self))
  rw [axis_depth, axis_depth] at same
  norm_num at same

theorem reordered_in_front :
    (∃ metrics, QualityMetrics.compute facedMap.toPoseGraph facedFromFront = .ok metrics ∧
      ∀ observations : List Observation, observations.Perm facedFromFront.observations →
        QualityMetrics.compute facedMap.toPoseGraph { facedFromFront with observations } = .ok metrics) ∧
    ∃ metrics, QualityMetrics.compute facedMap.toPoseGraph facedLandmark = .ok metrics ∧
      ¬ ∀ observations : List Observation, observations.Perm facedLandmark.observations →
        QualityMetrics.compute facedMap.toPoseGraph { facedLandmark with observations } = .ok metrics := by
  obtain ⟨metrics, computed, _, same, _⟩ := metrics_under_reordering _ _ _ _ front_observed
  obtain ⟨faced, measured, _, differs, _⟩ := metrics_under_reordering _ _ _ _ faced_observed
  exact ⟨⟨metrics, computed, same.mpr front_one_sided⟩, faced, measured, mt differs.mp facing_two_sided⟩

theorem first_observer_decides :
    @Operation.run ℝ _ eigenSpectral facedFromBothSides Map.empty = .ok facedMap ∧
      facedLandmark ∈ facedMap.landmarks ∧ facedFromBehind.observations.Perm facedLandmark.observations ∧
      QualityMetrics.compute facedMap.toPoseGraph facedLandmark = .ok ⟨2, some 1, Real.pi⟩ ∧
      QualityMetrics.compute facedMap.toPoseGraph facedFromBehind = .ok ⟨2, some (-1), Real.pi⟩ ∧
      evaluateQuality facedMap.toPoseGraph ⟨5, 2, 50, 0.1⟩ facedLandmark = .ok .good ∧
      evaluateQuality facedMap.toPoseGraph ⟨5, 2, 50, 0.1⟩ facedFromBehind = .ok .bad := by
  have back := facing_computed (-1) (by norm_num) _ behind_observed
  have front := facing_computed 1 abs_one _ faced_observed
  refine ⟨faced_reached, faced_member, .cons _ (.swap _ _ _), front, back, faced_good, ?_⟩
  rw [evaluateQuality, back]
  exact congrArg Except.ok ((classify_misses _ _).mpr (mt (facing_meets (-1)).mp (by norm_num)))

end LandmarkMap
