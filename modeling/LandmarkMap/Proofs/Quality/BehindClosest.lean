import LandmarkMap.Proofs.Doubles
import LandmarkMap.Proofs.Quality.Closest
import LandmarkMap.Proofs.Quality.Evaluation
import LandmarkMap.Proofs.Quality.Observers

set_option autoImplicit false

namespace LandmarkMap

section Doubles

open Double

theorem min_length_place : origin < place (ObserverRay.minLength : Float) := by
  have positive : (0 : Float) < ObserverRay.minLength := by decide +kernel
  rw [← place_zero]
  exact ((lt_places _ _).mp positive).2.2

theorem long_place (a : Float) (long : ObserverRay.minLength < a) : IsNumber a ∧ origin < place a := by
  obtain ⟨_, number, before⟩ := (lt_places _ _).mp long
  exact ⟨number, min_length_place.trans before⟩

instance distance_double : DistanceOrder Float where
  irrefl a less := lt_irrefl _ ((lt_places a a).mp less).2.2
  trans a b c first second := by
    obtain ⟨number, _, before⟩ := (lt_places a b).mp first
    obtain ⟨_, last, after⟩ := (lt_places b c).mp second
    exact (lt_places a c).mpr ⟨number, last, before.trans after⟩
  farther a b c long less above := by
    obtain ⟨number, far⟩ := long_place c long
    obtain ⟨first, second, before⟩ := (lt_places a b).mp less
    have behind : ¬ place c < place b := fun nearer => above ((lt_places c b).mpr ⟨number, second, nearer⟩)
    exact (lt_places a c).mpr ⟨first, number, before.trans_le (not_lt.mp behind)⟩
  infinite a b long near far := by
    obtain ⟨number, after⟩ := long_place b long
    exact finite_before a b near far number after
  behind a b long above least := by
    have ahead := ((le_places 0 b).mp above).2.2
    rw [place_zero] at ahead
    have below := ((le_places b (-a)).mp least).2.2
    exact absurd (ahead.trans below) (not_le.mpr (place_neg a (long_place a long).2))

end Doubles

variable {α : Type} [Scalar α] [DistanceOrder α]

-- A landmark whose observers are all too far away to measure, and thresholds that ask for no more than that.
structure QualityConfig.Unbounded (c : QualityConfig α) (rays : List (ObserverRay α)) : Prop where
  observed : rays ≠ []
  immeasurable : ∀ r ∈ rays, Scalar.isFinite r.length = false
  endless : Scalar.isFinite c.maxDistance = false

theorem good_behind (p : Vec3 α) (cameras : List (Pose α)) (c : QualityConfig α)
    (behind : ∀ r, ObserverRay.IsShortest (usableRays p cameras) r → r.depth < 0)
    (good : (QualityMetrics.ofRays (cameras.map (·.rayFrom p))).classify c = .good) :
    (∃ r, ObserverRay.IsShortest (usableRays p cameras) r ∧ c.minDistance ≤ -r.length) ∨
      c.Unbounded (usableRays p cameras) := by
  obtain ⟨some, _, within, _⟩ := (classify_good _ c).mp good
  have measured : (QualityMetrics.ofRays (cameras.map (·.rayFrom p))).signedDistance =
      (ObserverRay.closest? (usableRays p cameras)).map ObserverRay.signedLength := rfl
  rw [measured] at within
  have usable : ∀ r ∈ usableRays p cameras, r.isUsable = true := fun r member => (List.mem_filter.mp member).2
  rcases ObserverRay.closest_outcome _ usable with ⟨nothing, infinite⟩ | ⟨best, found, leads⟩
  · right
    rw [nothing] at within
    have unbounded : (c.minDistance == c.minDistance &&
        (decide (0 < c.maxDistance) && !Scalar.isFinite c.maxDistance)) = true := within
    simp only [Bool.and_eq_true, Bool.not_eq_true'] at unbounded
    exact ⟨fun none => some (congrArg List.length none), infinite, unbounded.2.2⟩
  · left
    have shortest := ObserverRay.leading_shortest _ best leads
    rw [found] at within
    have bounds : (decide (c.minDistance ≤ best.signedLength) &&
        decide (best.signedLength ≤ c.maxDistance)) = true := within
    rw [ObserverRay.signedLength, if_pos (behind best shortest), Bool.and_eq_true] at bounds
    exact ⟨best, shortest, of_decide_eq_true bounds.1⟩

-- Where its closest observers all have it behind them, a landmark is good only by a least distance below zero, or
-- without any distance. Checked thresholds can be of either kind.
theorem behind_closest_observer (g : PoseGraph α) (l : Landmark α) (p : Vec3 α) (cameras : List (Pose α))
    (observed : l.ObservedBy g p cameras)
    (behind : ∀ r, ObserverRay.IsShortest (usableRays p cameras) r → r.depth < 0) (c : QualityConfig α) :
    (evaluateQuality g c l = .ok .bad ∨ evaluateQuality g c l = .ok .good) ∧
      (evaluateQuality g c l = .ok .good →
        (∃ r, ObserverRay.IsShortest (usableRays p cameras) r ∧ c.minDistance ≤ -r.length) ∨
          c.Unbounded (usableRays p cameras)) ∧
      (0 ≤ c.minDistance → ¬ c.Unbounded (usableRays p cameras) → evaluateQuality g c l = .ok .bad) := by
  rw [observed_quality observed]
  simp only [Except.ok.injEq]
  have judged : (QualityMetrics.ofRays (cameras.map (·.rayFrom p))).classify c = .bad ∨
      (QualityMetrics.ofRays (cameras.map (·.rayFrom p))).classify c = .good := by
    cases verdict : (QualityMetrics.ofRays (cameras.map (·.rayFrom p))).classify c with
    | unknown => exact absurd verdict (classify_known _ c)
    | good => exact .inr rfl
    | bad => exact .inl rfl
  refine ⟨judged, good_behind p cameras c behind, fun above bounded => judged.resolve_right fun good => ?_⟩
  rcases good_behind p cameras c behind good with ⟨r, shortest, below⟩ | unbounded
  · have long := of_decide_eq_true (List.mem_filter.mp shortest.member).2
    exact DistanceOrder.behind _ _ long above below
  · exact bounded unbounded

-- A camera that looks away from the landmark that it observes.

theorem resting_vertex_built : (restingVertex (Id.ofNat 2)).Built :=
  .create (Id.ofNat 2) (Id.ofNat 1) ⟨0⟩ _ 1 _ rfl

def turnedAway : List (Operation Float) :=
  [.addMission (Id.ofNat 1) Pose.identity ⟨[⟨plainCamera, Pose.identity⟩]⟩,
    .addVertex (restingVertex (Id.ofNat 2)) resting_vertex_built,
    .addLandmark ⟨Id.ofNat 5, Id.ofNat 1, none, .unknown, []⟩ fresh_landmark_built,
    .addObservation (Id.ofNat 5) (Id.ofNat 2) 0 ⟨367, 248⟩,
    .pass (.setPosition (Id.ofNat 5) ⟨0, 0, -3⟩)]

def turnedAwayMap : Map Float := (Operation.run turnedAway Map.empty).toOption.getD Map.empty

def landmarkBehind : Landmark Float :=
  ⟨Id.ofNat 5, Id.ofNat 1, some ⟨0, 0, -3⟩, .unknown, [⟨Id.ofNat 2, 0, 0⟩]⟩

def placeBehind : Vec3 Float := (turnedAwayMap.landmarkInGlobal landmarkBehind).toOption.getD ⟨0, 0, 0⟩

def turnedCamera : Pose Float := (turnedAwayMap.cameraToGlobal (Id.ofNat 2) 0).toOption.getD Pose.identity

theorem turned_away_reached : Operation.run turnedAway Map.empty = .ok turnedAwayMap := rfl

theorem behind_member : landmarkBehind ∈ turnedAwayMap.landmarks := List.mem_singleton.mpr rfl

theorem behind_observed_once : landmarkBehind.ObservedBy turnedAwayMap.toPoseGraph placeBehind [turnedCamera] where
  valid := rfl
  located := value_or _ _ (by decide +kernel)
  observed := .cons (value_or _ _ (by decide +kernel)) .nil

theorem turned_depth (r : ObserverRay Float)
    (shortest : ObserverRay.IsShortest (usableRays placeBehind [turnedCamera]) r) : r.depth < 0 := by
  have only : r = turnedCamera.rayFrom placeBehind := List.mem_singleton.mp (List.mem_filter.mp shortest.member).1
  rw [only]
  decide +kernel

theorem turned_shortest :
    ObserverRay.IsShortest (usableRays placeBehind [turnedCamera]) (turnedCamera.rayFrom placeBehind) where
  member := List.mem_filter.mpr ⟨List.mem_cons_self, by decide +kernel⟩
  least s member := by
    have only : s = turnedCamera.rayFrom placeBehind := List.mem_singleton.mp (List.mem_filter.mp member).1
    rw [only]
    exact DistanceOrder.irrefl _

theorem turned_away_bad :
    landmarkBehind ∈ turnedAwayMap.landmarks ∧
      (⟨0, 1, 40, 0.05⟩ : QualityConfig Float).validate = .ok () ∧
      (∀ r, ObserverRay.IsShortest (usableRays placeBehind [turnedCamera]) r → r.depth < 0) ∧
      evaluateQuality turnedAwayMap.toPoseGraph ⟨0, 1, 40, 0.05⟩ landmarkBehind = .ok .bad := by
  have bounded : ¬ (⟨0, 1, 40, 0.05⟩ : QualityConfig Float).Unbounded (usableRays placeBehind [turnedCamera]) := by
    intro unbounded
    have finite : Scalar.isFinite (40 : Float) = true := by decide +kernel
    cases finite.symm.trans unbounded.endless
  exact ⟨behind_member, value_or _ () (by decide +kernel), turned_depth,
    (behind_closest_observer _ _ _ _ behind_observed_once turned_depth _).2.2 (by decide +kernel) bounded⟩

theorem turned_away_good :
    Operation.run turnedAway Map.empty = .ok turnedAwayMap ∧ landmarkBehind ∈ turnedAwayMap.landmarks ∧
      (⟨0, 1, 40, -10⟩ : QualityConfig Float).validate = .ok () ∧
      landmarkBehind.ObservedBy turnedAwayMap.toPoseGraph placeBehind [turnedCamera] ∧
      ObserverRay.IsShortest (usableRays placeBehind [turnedCamera]) (turnedCamera.rayFrom placeBehind) ∧
      (∀ r, ObserverRay.IsShortest (usableRays placeBehind [turnedCamera]) r → r.depth < 0) ∧
      evaluateQuality turnedAwayMap.toPoseGraph ⟨0, 1, 40, -10⟩ landmarkBehind = .ok .good := by
  have judged := value_or (evaluateQuality turnedAwayMap.toPoseGraph ⟨0, 1, 40, -10⟩ landmarkBehind) .bad (by decide +kernel)
  have good : (evaluateQuality turnedAwayMap.toPoseGraph ⟨0, 1, 40, -10⟩ landmarkBehind).toOption.getD .bad = .good := by
    decide +kernel
  rw [good] at judged
  exact ⟨turned_away_reached, behind_member, value_or _ () (by decide +kernel), behind_observed_once, turned_shortest,
    turned_depth, judged⟩

end LandmarkMap
