import LandmarkMap.Proofs.Quality.Closest
import LandmarkMap.Proofs.Quality.Evaluation
import LandmarkMap.Proofs.Quality.Observers
import LandmarkMap.Proofs.Quality.Spread
import LandmarkMap.Proofs.Triangulation.Recovery

set_option autoImplicit false

namespace LandmarkMap

namespace Vec3

variable (p : Vec3 ℝ)

-- The cameras that are not where the point is, in the order of the observations.
noncomputable def observers (cameras : List (Pose ℝ)) : List (Pose ℝ) :=
  cameras.filter fun camera => decide (1e-12 < dist camera.position.point p.point)

-- The angles that the point sees between two cameras, whichever of the two is named first.
def angles (observers : List (Pose ℝ)) : Set ℝ :=
  {angle | ∃ a b, [a, b].Subperm observers ∧ EuclideanGeometry.angle a.position.point p.point b.position.point = angle}

def distances (observers : List (Pose ℝ)) : Set ℝ :=
  {distance | ∃ camera ∈ observers, dist camera.position.point p.point = distance}

-- Of the cameras that are closest, the one that comes first.
def FirstClosest (observers : List (Pose ℝ)) (camera : Pose ℝ) : Prop :=
  ∃ earlier later, observers = earlier ++ camera :: later ∧
    (∀ other ∈ earlier, dist camera.position.point p.point < dist other.position.point p.point) ∧
    ∀ other ∈ later, dist camera.position.point p.point ≤ dist other.position.point p.point

end Vec3

-- What the metrics of a point say of those who observe it. No distance stands for an infinite one.
structure QualityMetrics.Describes (metrics : QualityMetrics ℝ) (p : Vec3 ℝ) (observers : List (Pose ℝ)) : Prop where
  count : metrics.observers = observers.length
  unobserved : metrics.signedDistance = none ↔ observers = []
  distance : ∀ d, metrics.signedDistance = some d → IsLeast (p.distances observers) |d|
  side : ∀ d, metrics.signedDistance = some d →
    ∃ camera, p.FirstClosest observers camera ∧ (d < 0 ↔ (camera.applyInverse p).z < 0)
  narrow : observers.length < 2 → metrics.maxAngle = 0
  widest : 2 ≤ observers.length → IsGreatest (p.angles observers) metrics.maxAngle

section Rays

variable (p : Vec3 ℝ)

theorem ray_length (camera : Pose ℝ) : (camera.rayFrom p).length = dist camera.position.point p.point :=
  (point_distance _ _).symm

theorem usable_observers (cameras : List (Pose ℝ)) :
    usableRays p cameras = (p.observers cameras).map (·.rayFrom p) := by
  rw [usableRays, List.filter_map, Vec3.observers]
  congr 2
  funext camera
  rw [Function.comp_apply, ObserverRay.isUsable, ray_length]
  rfl

theorem observers_apart (cameras : List (Pose ℝ)) (camera : Pose ℝ) (member : camera ∈ p.observers cameras) :
    0 < (camera.position - p).norm := by
  have apart := of_decide_eq_true (List.mem_filter.mp member).2
  rw [point_distance] at apart
  exact lt_trans (by norm_num) apart

theorem observed_angle (a b : Pose ℝ) (first : 0 < (a.position - p).norm) (second : 0 < (b.position - p).norm) :
    Rays.angle (a.position - p) (b.position - p) =
      EuclideanGeometry.angle a.position.point p.point b.position.point := by
  rw [ray_angle _ _ first.ne' second.ne', point_difference, point_difference]
  rfl

theorem first_closest (observers : List (Pose ℝ)) (best : ObserverRay ℝ)
    (leads : ObserverRay.LeadsShortest (observers.map (·.rayFrom p)) best) :
    ∃ camera, p.FirstClosest observers camera ∧ camera.rayFrom p = best := by
  obtain ⟨earlier, later, split, farther, least⟩ := leads
  obtain ⟨before, _, rfl, rfl, rest⟩ := List.map_eq_append_iff.mp split
  obtain ⟨camera, after, rfl, rfl, rfl⟩ := List.map_eq_cons_iff.mp rest
  simp only [List.forall_mem_map, ray_length, not_lt] at farther least
  exact ⟨camera, ⟨before, after, rfl, farther, least⟩, rfl⟩

theorem first_closest_member (observers : List (Pose ℝ)) (camera : Pose ℝ) (first : p.FirstClosest observers camera) :
    camera ∈ observers := by
  obtain ⟨earlier, later, rfl, _⟩ := first
  simp

theorem first_leads (observers : List (Pose ℝ)) (camera : Pose ℝ) (first : p.FirstClosest observers camera) :
    ObserverRay.LeadsShortest (observers.map (·.rayFrom p)) (camera.rayFrom p) := by
  obtain ⟨earlier, later, rfl, farther, least⟩ := first
  refine ⟨earlier.map (·.rayFrom p), later.map (·.rayFrom p), by simp, ?_, ?_⟩
  · simpa only [List.forall_mem_map, ray_length] using farther
  · simpa only [List.forall_mem_map, ray_length, not_lt] using least

theorem first_closest_least (observers : List (Pose ℝ)) (camera : Pose ℝ) (first : p.FirstClosest observers camera) :
    IsLeast (p.distances observers) (dist camera.position.point p.point) := by
  have shortest := ObserverRay.leading_shortest _ _ (first_leads p observers camera first)
  refine ⟨⟨camera, first_closest_member p observers camera first, rfl⟩, ?_⟩
  rintro _ ⟨other, member, rfl⟩
  rw [← ray_length, ← ray_length]
  exact not_lt.mp (shortest.least _ (List.mem_map_of_mem member))

theorem signed_length (ray : ObserverRay ℝ) (long : 0 < ray.length) :
    |ray.signedLength| = ray.length ∧ (ray.signedLength < 0 ↔ ray.depth < 0) := by
  rw [ObserverRay.signedLength]
  by_cases behind : ray.depth < 0
  · rw [if_pos behind, abs_neg, abs_of_pos long]
    exact ⟨rfl, fun _ => behind, fun _ => neg_neg_of_pos long⟩
  · rw [if_neg behind, abs_of_pos long]
    exact ⟨rfl, fun negative => absurd long (not_lt.mpr negative.le), fun negative => absurd negative behind⟩

end Rays

section Metrics

variable (p : Vec3 ℝ) (cameras : List (Pose ℝ))

theorem signed_distance (metrics : QualityMetrics ℝ)
    (measured : QualityMetrics.ofRays (cameras.map (·.rayFrom p)) = metrics) :
    (metrics.signedDistance = none ∧ p.observers cameras = []) ∨
      ∃ camera, p.FirstClosest (p.observers cameras) camera ∧
        metrics.signedDistance = some (camera.rayFrom p).signedLength := by
  have closest : metrics.signedDistance = (ObserverRay.closest? (usableRays p cameras)).map ObserverRay.signedLength :=
    measured ▸ rfl
  rw [closest]
  have usable : ∀ ray ∈ usableRays p cameras, ray.isUsable = true := fun ray member => (List.mem_filter.mp member).2
  rcases ObserverRay.closest_outcome _ usable with ⟨nothing, infinite⟩ | ⟨best, found, leads⟩
  · left
    rw [nothing]
    refine ⟨rfl, List.eq_nil_iff_forall_not_mem.mpr fun camera member => ?_⟩
    rw [usable_observers] at infinite
    cases infinite _ (List.mem_map_of_mem member)
  · right
    rw [usable_observers] at leads
    obtain ⟨camera, first, rfl⟩ := first_closest p _ best leads
    exact ⟨camera, first, by rw [found]; rfl⟩

theorem usable_directions :
    (usableRays p cameras).map (·.ray) = (p.observers cameras).map fun camera => camera.position - p := by
  rw [usable_observers, List.map_map]
  rfl

theorem pair_angle (a b : Pose ℝ) (pair : [a, b].Subperm (p.observers cameras)) :
    Rays.angle (a.position - p) (b.position - p) =
      EuclideanGeometry.angle a.position.point p.point b.position.point :=
  observed_angle p a b (observers_apart p cameras a (pair.subset (by simp)))
    (observers_apart p cameras b (pair.subset (by simp)))

theorem angles_bounded (angle : ℝ) (seen : angle ∈ p.angles (p.observers cameras)) :
    angle ≤ Rays.maxAngle ((usableRays p cameras).map (·.ray)) := by
  obtain ⟨a, b, pair, rfl⟩ := seen
  obtain ⟨_, bounded⟩ := (widest_above_bound _ 0 _).mp (le_refl (Rays.maxAngle ((usableRays p cameras).map (·.ray))))
  rw [usable_directions, List.pairwise_map, List.pairwise_iff_forall_sublist, ← usable_directions] at bounded
  obtain ⟨order, arranged, listed⟩ := pair
  rw [EuclideanGeometry.angle]
  rcases List.perm_pair.mp arranged with rfl | rfl
  · exact (pair_angle p cameras a b listed.subperm).symm.trans_le (bounded listed)
  · rw [InnerProductGeometry.angle_comm]
    exact (pair_angle p cameras b a listed.subperm).symm.trans_le (bounded listed)

theorem angle_reached :
    Rays.maxAngle ((usableRays p cameras).map (·.ray)) = 0 ∨
      2 ≤ (p.observers cameras).length ∧
        Rays.maxAngle ((usableRays p cameras).map (·.ray)) ∈ p.angles (p.observers cameras) := by
  rw [usable_directions]
  rcases widest_above_reached ((p.observers cameras).map fun camera => camera.position - p) 0 with none | ⟨v, w, pair, widest⟩
  · exact .inl none
  · obtain ⟨chosen, listed, directions⟩ := List.sublist_map_iff.mp pair
    obtain ⟨a, b, rfl⟩ : ∃ a b, chosen = [a, b] := by
      have two := congrArg List.length directions
      rw [List.length_map] at two
      exact List.length_eq_two.mp two.symm
    obtain ⟨rfl, tail⟩ := List.cons_eq_cons.mp directions
    obtain ⟨rfl, _⟩ := List.cons_eq_cons.mp tail
    exact .inr ⟨listed.length_le, a, b, listed.subperm, (widest.trans (pair_angle p cameras a b listed.subperm)).symm⟩

theorem widest_greatest (pair : 2 ≤ (p.observers cameras).length) :
    IsGreatest (p.angles (p.observers cameras)) (Rays.maxAngle ((usableRays p cameras).map (·.ray))) := by
  refine ⟨?_, fun angle seen => angles_bounded p cameras angle seen⟩
  rcases angle_reached p cameras with none | ⟨_, reached⟩
  · -- The widest angle is zero, and so is that between the first two.
    match split : p.observers cameras, pair with
    | a :: b :: rest, _ =>
        have both : [a, b].Subperm (p.observers cameras) := by
          rw [split]
          exact (List.prefix_append [a, b] rest).sublist.subperm
        have below := angles_bounded p cameras _ ⟨a, b, both, rfl⟩
        rw [none] at below ⊢
        exact ⟨a, b, split ▸ both, le_antisymm below (EuclideanGeometry.angle_nonneg _ _ _)⟩
  · exact reached

theorem same_size_and_side (d e : ℝ) (size : |e| = |d|) (side : e < 0 ↔ d < 0) : e = d := by
  rcases abs_eq_abs.mp size with same | opposite
  · exact same
  · rcases lt_trichotomy d 0 with negative | rfl | positive
    · exact absurd (side.mpr negative) (by linarith)
    · rw [opposite, neg_zero]
    · exact absurd (side.mp (by linarith)) (by linarith)

theorem observer_sign (camera : Pose ℝ) (member : camera ∈ p.observers cameras) :
    |(camera.rayFrom p).signedLength| = dist camera.position.point p.point ∧
      ((camera.rayFrom p).signedLength < 0 ↔ (camera.applyInverse p).z < 0) := by
  rw [← ray_length]
  exact signed_length _ (observers_apart p cameras camera member)

theorem metrics_described : (QualityMetrics.ofRays (cameras.map (·.rayFrom p))).Describes p (p.observers cameras) := by
  generalize measured : QualityMetrics.ofRays (cameras.map (·.rayFrom p)) = metrics
  have spread : metrics.maxAngle = Rays.maxAngle ((usableRays p cameras).map (·.ray)) := measured ▸ rfl
  have closest := signed_distance p cameras metrics measured
  constructor
  · rw [← List.length_map (f := (·.rayFrom p)), ← usable_observers, ← measured]
    rfl
  · rcases closest with ⟨nothing, unobserved⟩ | ⟨camera, first, found⟩
    · exact ⟨fun _ => unobserved, fun _ => nothing⟩
    · rw [found]
      exact ⟨fun nothing => (Option.some_ne_none _ nothing).elim,
        fun unobserved => absurd (first_closest_member p _ camera first) (by simp [unobserved])⟩
  · intro d measured
    rcases closest with ⟨nothing, _⟩ | ⟨camera, first, found⟩
    · cases nothing.symm.trans measured
    · cases found.symm.trans measured
      rw [(observer_sign p cameras camera (first_closest_member p _ camera first)).1]
      exact first_closest_least p _ camera first
  · intro d measured
    rcases closest with ⟨nothing, _⟩ | ⟨camera, first, found⟩
    · cases nothing.symm.trans measured
    · cases found.symm.trans measured
      exact ⟨camera, first, (observer_sign p cameras camera (first_closest_member p _ camera first)).2⟩
  · intro few
    rcases angle_reached p cameras with none | ⟨pair, _⟩
    · exact spread.trans none
    · exact absurd pair (not_le.mpr few)
  · intro pair
    rw [spread]
    exact widest_greatest p cameras pair

end Metrics

-- What a good landmark has to meet.
structure QualityMetrics.Meets (metrics : QualityMetrics ℝ) (c : QualityConfig ℝ) : Prop where
  enough : max 1 c.minObservers ≤ metrics.observers
  within : ∃ d, metrics.signedDistance = some d ∧ c.minDistance ≤ d ∧ d ≤ c.maxDistance
  wide : c.minAngleDegrees * (Real.pi / 180) ≤ metrics.maxAngle

theorem distance_within (nearest farthest : ℝ) (distance : Option ℝ) :
    QualityMetrics.distanceWithin nearest farthest distance = true ↔
      ∃ d, distance = some d ∧ nearest ≤ d ∧ d ≤ farthest := by
  cases distance with
  | none => simp [QualityMetrics.distanceWithin]
  | some d => simp [QualityMetrics.distanceWithin]

theorem real_radians (degrees : ℝ) : Scalar.radians degrees = degrees * (Real.pi / 180) := by
  change degrees * (Real.pi / 180.0) = _
  norm_num

theorem classify_meets (metrics : QualityMetrics ℝ) (c : QualityConfig ℝ) :
    metrics.classify c = .good ↔ metrics.Meets c := by
  rw [classify_good, distance_within, not_lt, real_radians]
  constructor
  · rintro ⟨some, enough, within, wide⟩
    exact ⟨max_le (Nat.one_le_iff_ne_zero.mpr some) enough, within, wide⟩
  · rintro ⟨enough, within, wide⟩
    exact ⟨Nat.one_le_iff_ne_zero.mp (le_of_max_le_left enough), le_of_max_le_right enough, within, wide⟩

theorem classify_misses (metrics : QualityMetrics ℝ) (c : QualityConfig ℝ) :
    metrics.classify c = .bad ↔ ¬ metrics.Meets c := by
  rw [← classify_meets]
  cases verdict : metrics.classify c with
  | unknown => exact absurd verdict (classify_known metrics c)
  | good => simp
  | bad => simp

theorem quality_by_reference (g : PoseGraph ℝ) (l : Landmark ℝ) (p : Vec3 ℝ) (cameras : List (Pose ℝ))
    (observed : l.ObservedBy g p cameras) :
    ∃ metrics, QualityMetrics.compute g l = .ok metrics ∧ metrics.Describes p (p.observers cameras) ∧
      ∀ c, (evaluateQuality g c l = .ok .good ↔ metrics.Meets c) ∧
        (evaluateQuality g c l = .ok .bad ↔ ¬ metrics.Meets c) := by
  refine ⟨_, observed_metrics observed, metrics_described p cameras, fun c => ?_⟩
  rw [observed_quality observed, Except.ok.injEq, Except.ok.injEq]
  exact ⟨classify_meets _ c, classify_misses _ c⟩

-- Two cameras that look the same way from both sides of a landmark, and a third that stands on it.

def touchingObserver : VertexId := Id.ofNat 4

theorem first_observer_built : (watchingVertex firstObserver (Id.ofNat 1) ⟨0, 0, 0⟩).Built :=
  .create firstObserver (Id.ofNat 1) ⟨0⟩ _ 1 _ rfl

noncomputable def facedFromBothSides : List (Operation ℝ) :=
  [.addMission (Id.ofNat 1) Pose.identity offsetRig,
    .addVertex (watchingVertex firstObserver (Id.ofNat 1) ⟨0, 0, 0⟩) first_observer_built,
    .addVertex (watchingVertex secondObserver (Id.ofNat 1) ⟨0, 0, 2⟩) (.create secondObserver (Id.ofNat 1) ⟨0⟩ _ 1 _ rfl),
    .addVertex (watchingVertex touchingObserver (Id.ofNat 1) ⟨0, 0, 1⟩)
      (.create touchingObserver (Id.ofNat 1) ⟨0⟩ _ 1 _ rfl),
    .addLandmark ⟨Id.ofNat 5, Id.ofNat 1, none, .unknown, []⟩ fresh_landmark_built,
    .addObservation (Id.ofNat 5) touchingObserver 0 ⟨320, 240⟩,
    .addObservation (Id.ofNat 5) firstObserver 0 ⟨320, 240⟩,
    .addObservation (Id.ofNat 5) secondObserver 0 ⟨320, 240⟩,
    .pass (.setPosition (Id.ofNat 5) ⟨0, 0, 0⟩)]

noncomputable def facedMap : Map ℝ :=
  (@Operation.run ℝ _ eigenSpectral facedFromBothSides Map.empty).toOption.getD Map.empty

noncomputable def facedLandmark : Landmark ℝ :=
  ⟨Id.ofNat 5, Id.ofNat 1, some ⟨0, 0, 0⟩, .unknown,
    [⟨touchingObserver, 0, 0⟩, ⟨firstObserver, 0, 0⟩, ⟨secondObserver, 0, 0⟩]⟩

theorem faced_reached : @Operation.run ℝ _ eigenSpectral facedFromBothSides Map.empty = .ok facedMap := rfl

theorem faced_member : facedLandmark ∈ facedMap.landmarks := List.mem_singleton.mpr rfl

theorem mounted_camera (body : Vec3 ℝ) :
    Pose.identity * Pose.atPosition body * (Pose.atPosition ⟨0, 0, 1⟩).inverse = Pose.atPosition (body - ⟨0, 0, 1⟩) := by
  change Pose.atPosition Vec3.zero * _ * _ = _
  rw [at_position_inverse, at_position_product, at_position_product]
  simp [Vec3.zero, add_coordinates, sub_coordinates, neg_coordinates, sub_eq_add_neg]

noncomputable def facingCameras (height : ℝ) : List (Pose ℝ) :=
  [Pose.atPosition ⟨0, 0, 0⟩, Pose.atPosition ⟨0, 0, -height⟩, Pose.atPosition ⟨0, 0, height⟩]

theorem faced_observed : facedLandmark.ObservedBy facedMap.toPoseGraph ⟨0, 0, 0⟩ (facingCameras 1) := by
  have located : facedMap.landmarkInGlobal facedLandmark = .ok (Pose.identity.apply ⟨0, 0, 0⟩) := rfl
  have home : (Pose.identity : Pose ℝ).apply ⟨0, 0, 0⟩ = ⟨0, 0, 0⟩ := by
    change (Pose.atPosition Vec3.zero).apply _ = _
    rw [at_position_apply]
    simp [Vec3.zero, add_coordinates]
  have camera : ∀ (body : Vec3 ℝ) (height : ℝ), body - ⟨0, 0, 1⟩ = ⟨0, 0, height⟩ →
      Except.ok (ε := Fault ℝ) (Pose.identity * Pose.atPosition body * (Pose.atPosition ⟨0, 0, 1⟩).inverse) =
        .ok (Pose.atPosition ⟨0, 0, height⟩) := by
    intro body height offset
    rw [mounted_camera, offset]
  refine ⟨rfl, located.trans (congrArg Except.ok home), .cons ?_ (.cons ?_ (.cons ?_ .nil))⟩
  · exact camera ⟨0, 0, 1⟩ 0 (by norm_num [sub_coordinates])
  · exact camera ⟨0, 0, 0⟩ (-1) (by norm_num [sub_coordinates])
  · exact camera ⟨0, 0, 2⟩ 1 (by norm_num [sub_coordinates])

theorem axis_distance (height : ℝ) : dist (Vec3.point ⟨0, 0, height⟩) (Vec3.point ⟨0, 0, 0⟩) = |height| := by
  rw [point_distance, sub_coordinates, Vec3.norm, Vec3.normSq, Vec3.dot, real_sqrt]
  simp [Real.sqrt_mul_self_eq_abs]

section Facing

-- Two cameras at opposite places around the origin, and both look along the axis.
variable (height : ℝ)

theorem facing_observers (unit : |height| = 1) :
    Vec3.observers ⟨0, 0, 0⟩ (facingCameras height) =
      [Pose.atPosition ⟨0, 0, -height⟩, Pose.atPosition ⟨0, 0, height⟩] := by
  have touching : ¬ (1e-12 : ℝ) < 0 := by norm_num
  have away : (1e-12 : ℝ) < 1 := by norm_num
  simp [Vec3.observers, facingCameras, Pose.atPosition, axis_distance, unit, touching, away]

theorem facing_distances (unit : |height| = 1) :
    Vec3.distances ⟨0, 0, 0⟩ [Pose.atPosition ⟨0, 0, -height⟩, Pose.atPosition ⟨0, 0, height⟩] = {1} := by
  ext distance
  simp [Vec3.distances, Pose.atPosition, axis_distance, unit, eq_comm]

theorem facing_first (camera : Pose ℝ)
    (first : Vec3.FirstClosest ⟨0, 0, 0⟩ [Pose.atPosition ⟨0, 0, -height⟩, Pose.atPosition ⟨0, 0, height⟩] camera) :
    camera = Pose.atPosition ⟨0, 0, -height⟩ := by
  have member := first_closest_member _ _ camera first
  obtain ⟨earlier, later, split, farther, _⟩ := first
  rcases List.cons_eq_append_iff.mp split with ⟨_, whole⟩ | ⟨rest, rfl, _⟩
  · exact (List.cons_eq_cons.mp whole).1
  · have nearer := farther _ List.mem_cons_self
    rcases List.mem_pair.mp member with rfl | rfl
    · exact absurd nearer (lt_irrefl _)
    · simp [Pose.atPosition, axis_distance] at nearer

theorem axis_depth : ((Pose.atPosition ⟨0, 0, height⟩).applyInverse ⟨0, 0, 0⟩).z = -height := by
  rw [at_position_back, sub_coordinates]
  exact zero_sub height

theorem facing_angle (away : |height| = 1) :
    EuclideanGeometry.angle (Vec3.point ⟨0, 0, -height⟩) (Vec3.point ⟨0, 0, 0⟩) (Vec3.point ⟨0, 0, height⟩) =
      Real.pi := by
  have origin : Vec3.point ⟨0, 0, 0⟩ = 0 := congrArg (WithLp.toLp 2) space_get_zero
  have opposite : Vec3.point ⟨0, 0, -height⟩ = -Vec3.point ⟨0, 0, height⟩ := by
    have sign : (⟨0, 0, -height⟩ : Vec3 ℝ) = -⟨0, 0, height⟩ := by simp [neg_coordinates]
    rw [sign, Vec3.point, space_get_neg]
    rfl
  have elsewhere : Vec3.point ⟨0, 0, height⟩ ≠ 0 := by
    rw [← dist_ne_zero, ← origin, axis_distance, away]
    exact one_ne_zero
  rw [EuclideanGeometry.angle, origin, vsub_eq_sub, vsub_eq_sub, sub_zero, sub_zero, opposite]
  exact InnerProductGeometry.angle_neg_self_of_nonzero elsewhere

theorem facing_metrics (unit : |height| = 1) (metrics : QualityMetrics ℝ)
    (described : metrics.Describes ⟨0, 0, 0⟩ [Pose.atPosition ⟨0, 0, -height⟩, Pose.atPosition ⟨0, 0, height⟩]) :
    metrics = ⟨2, some height, Real.pi⟩ := by
  have distance : metrics.signedDistance = some height := by
    cases measured : metrics.signedDistance with
    | none => cases described.unobserved.mp measured
    | some d =>
        have size := described.distance d measured
        obtain ⟨camera, first, side⟩ := described.side d measured
        cases facing_first height camera first
        rw [facing_distances height unit] at size
        rw [axis_depth, neg_neg] at side
        rw [same_size_and_side height d ((Set.mem_singleton_iff.mp size.1).trans unit.symm) side]
  have wide : metrics.maxAngle = Real.pi := by
    have widest := described.widest le_rfl
    refine le_antisymm ?_ (widest.2 ⟨_, _, List.Subperm.refl _, facing_angle height unit⟩)
    obtain ⟨a, b, _, same⟩ := widest.1
    exact same ▸ EuclideanGeometry.angle_le_pi _ _ _
  exact (QualityMetrics.mk.injEq ..).mpr ⟨described.count, distance, wide⟩

end Facing

-- What a landmark in the middle of two observers is called depends on the side that the first of them is on.
theorem facing_meets (height : ℝ) :
    (⟨2, some height, Real.pi⟩ : QualityMetrics ℝ).Meets ⟨5, 2, 50, 0.1⟩ ↔ 0.1 ≤ height ∧ height ≤ 50 := by
  constructor
  · rintro ⟨_, ⟨d, found, near, far⟩, _⟩
    cases found
    exact ⟨near, far⟩
  · rintro ⟨near, far⟩
    exact ⟨le_rfl, ⟨height, rfl, near, far⟩, by linarith [Real.pi_pos]⟩

theorem faced_by_reference :
    ∃ metrics, @Operation.run ℝ _ eigenSpectral facedFromBothSides Map.empty = .ok facedMap ∧
      facedLandmark ∈ facedMap.landmarks ∧ facedLandmark.ObservedBy facedMap.toPoseGraph ⟨0, 0, 0⟩ (facingCameras 1) ∧
      QualityMetrics.compute facedMap.toPoseGraph facedLandmark = .ok metrics ∧ metrics.observers = 2 ∧
      metrics.signedDistance = some 1 ∧ metrics.maxAngle = Real.pi ∧
      evaluateQuality facedMap.toPoseGraph ⟨5, 2, 50, 0.1⟩ facedLandmark = .ok .good := by
  obtain ⟨metrics, computed, described, labels⟩ := quality_by_reference _ _ _ _ faced_observed
  rw [facing_observers 1 abs_one] at described
  cases facing_metrics 1 abs_one metrics described
  refine ⟨_, faced_reached, faced_member, faced_observed, computed, rfl, rfl, rfl, (labels _).1.mpr ?_⟩
  refine (facing_meets 1).mpr ?_
  norm_num

end LandmarkMap
