import LandmarkMap.Proofs.Quality.ObserverOrder

set_option autoImplicit false

namespace LandmarkMap

structure QualityConfig.AtLeastAsPermissive (loose strict : QualityConfig ℝ) : Prop where
  observers : loose.minObservers ≤ strict.minObservers
  angle : loose.minAngleDegrees ≤ strict.minAngleDegrees
  nearest : loose.minDistance ≤ strict.minDistance
  farthest : strict.maxDistance ≤ loose.maxDistance

theorem meets_permissive (metrics : QualityMetrics ℝ) (loose strict : QualityConfig ℝ)
    (permissive : loose.AtLeastAsPermissive strict) (meets : metrics.Meets strict) : metrics.Meets loose := by
  obtain ⟨enough, ⟨d, measured, near, far⟩, wide⟩ := meets
  refine ⟨(max_le_max_left 1 permissive.observers).trans enough, ⟨d, measured, permissive.nearest.trans near,
    far.trans permissive.farthest⟩, le_trans ?_ wide⟩
  exact mul_le_mul_of_nonneg_right permissive.angle (by positivity)

section Extended

variable {p : Vec3 ℝ} {observers extended : List (Pose ℝ)} {metrics further : QualityMetrics ℝ}

theorem angle_nonnegative (described : metrics.Describes p observers) : 0 ≤ metrics.maxAngle := by
  by_cases pair : 2 ≤ observers.length
  · obtain ⟨a, b, _, same⟩ := (described.widest pair).1
    exact same ▸ EuclideanGeometry.angle_nonneg _ _ _
  · exact (described.narrow (not_le.mp pair)).ge

variable (contained : observers.Sublist extended) (described : metrics.Describes p observers)
  (again : further.Describes p extended)

include contained described again

theorem extended_count : metrics.observers ≤ further.observers := by
  rw [described.count, again.count]
  exact contained.length_le

theorem extended_angle : metrics.maxAngle ≤ further.maxAngle := by
  by_cases pair : 2 ≤ observers.length
  · obtain ⟨a, b, both, seen⟩ := (described.widest pair).1
    exact (again.widest (pair.trans contained.length_le)).2 ⟨a, b, both.trans contained.subperm, seen⟩
  · rw [described.narrow (not_le.mp pair)]
    exact angle_nonnegative again

theorem extended_distance (d : ℝ) (measured : metrics.signedDistance = some d) :
    ∃ e, further.signedDistance = some e ∧ |e| ≤ |d| := by
  obtain ⟨camera, member, distance⟩ := (described.distance d measured).1
  have kept := contained.subset member
  cases repeated : further.signedDistance with
  | none => exact absurd kept (by simp [again.unobserved.mp repeated])
  | some e => exact ⟨e, rfl, (again.distance e repeated).2 ⟨camera, kept, distance⟩⟩

end Extended

theorem quality_monotone (g : PoseGraph ℝ) (l : Landmark ℝ) (p : Vec3 ℝ) (cameras : List (Pose ℝ))
    (observed : l.ObservedBy g p cameras) :
    (∀ loose strict : QualityConfig ℝ, loose.AtLeastAsPermissive strict →
      evaluateQuality g strict l = .ok .good → evaluateQuality g loose l = .ok .good) ∧
    ∀ (more : List Observation) (others : List (Pose ℝ)),
      List.Forall₂ (fun o camera => g.cameraToGlobal o.vertex o.frame = .ok camera) more others →
      ∃ metrics further, QualityMetrics.compute g l = .ok metrics ∧
        QualityMetrics.compute g { l with observations := l.observations ++ more } = .ok further ∧
        metrics.observers ≤ further.observers ∧ metrics.maxAngle ≤ further.maxAngle ∧
        ∀ d, metrics.signedDistance = some d → ∃ e, further.signedDistance = some e ∧ |e| ≤ |d| := by
  constructor
  · intro loose strict permissive
    rw [observed_quality observed, observed_quality observed, Except.ok.injEq, Except.ok.injEq, classify_meets, classify_meets]
    exact meets_permissive _ loose strict permissive
  · intro more others resolved
    have described := metrics_described p cameras
    have again := metrics_described p (cameras ++ others)
    have contained : (p.observers cameras).Sublist (p.observers (cameras ++ others)) :=
      (List.sublist_append_left cameras others).filter _
    exact ⟨_, _, observed_metrics observed, observed_metrics (observed_further observed more others resolved),
      extended_count contained described again, extended_angle contained described again,
      extended_distance contained described again⟩

-- The second of two observers that face each other comes later, and thresholds come down, from some that the landmark
-- meets and from some that ask for a third observer.
theorem second_observer_added :
    (evaluateQuality facedMap.toPoseGraph ⟨5, 2, 50, 0.1⟩ facedLandmark = .ok .good ∧
        evaluateQuality facedMap.toPoseGraph ⟨5, 3, 50, 0.1⟩ facedLandmark = .ok .bad ∧
        evaluateQuality facedMap.toPoseGraph ⟨0, 1, 60, 0⟩ facedLandmark = .ok .good) ∧
      ∃ metrics, QualityMetrics.compute facedMap.toPoseGraph facedFromFront = .ok metrics ∧
        metrics.observers ≤ 2 ∧ metrics.maxAngle ≤ Real.pi ∧ ∀ d, metrics.signedDistance = some d → 1 ≤ |d| := by
  have permissive : (⟨0, 1, 60, 0⟩ : QualityConfig ℝ).AtLeastAsPermissive ⟨5, 2, 50, 0.1⟩ := by
    constructor <;> norm_num
  have second : List.Forall₂ (fun (o : Observation) camera => facedMap.cameraToGlobal o.vertex o.frame = .ok camera)
      [⟨secondObserver, 0, 0⟩] [Pose.atPosition ⟨0, 0, 1⟩] := by
    obtain ⟨_, _, observed⟩ := faced_observed
    obtain _ | ⟨_, _ | ⟨_, second⟩⟩ := observed
    exact second
  obtain ⟨metrics, further, computed, extended, count, angle, distance⟩ :=
    (quality_monotone _ _ _ _ front_observed).2 _ _ second
  have pair := facing_computed 1 abs_one _ faced_observed
  have bad : evaluateQuality facedMap.toPoseGraph ⟨5, 3, 50, 0.1⟩ facedLandmark = .ok .bad := by
    rw [evaluateQuality, pair]
    exact congrArg Except.ok ((classify_misses _ _).mpr fun meets => absurd meets.enough (by decide))
  have good := (quality_monotone _ _ _ _ faced_observed).1 _ _ permissive faced_good
  cases pair.symm.trans extended
  refine ⟨⟨faced_good, bad, good⟩, metrics, computed, count, angle, ?_⟩
  intro d measured
  obtain ⟨e, found, least⟩ := distance d measured
  cases found
  rwa [abs_one] at least

end LandmarkMap
