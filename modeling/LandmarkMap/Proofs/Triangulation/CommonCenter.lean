import LandmarkMap.Proofs.Triangulation.RayAngles
import LandmarkMap.Proofs.Triangulation.Recovery

set_option autoImplicit false

namespace LandmarkMap

open Matrix

section Standing

variable [Spectral ℝ]

-- What a triangulation says of rays that all start at one point.
structure StandsStill (sights : List (Sight ℝ)) (c : Vec3 ℝ) (status : TriangulationResult ℝ) : Prop where
  outcome : status = .unobservable ∨ status = .successful c
  decided : ∀ d : Svd ℝ, d.Decomposes (Triangulation.normal sights).matrix.toMatrix →
    (status = .successful c ↔ ∀ i j, 1e-10 * d.values.get i < d.values.get j)
  parallel : ∀ direction : Vec3 ℝ, (∀ s ∈ sights, ∃ k : ℝ, s.bearing = direction.scale k) → status = .unobservable
  apart : ∀ s t, [s, t].Sublist sights → 1e-10 * sights.length < 1 - |s.ray.dot t.ray| → status = .successful c

omit [Spectral ℝ] in
-- The common center solves the normal equations, whatever the bearings.
theorem standing_rhs (sights : List (Sight ℝ)) (c : Vec3 ℝ) (stand : ∀ s ∈ sights, s.center = c) :
    (Triangulation.normal sights).matrix.toMatrix *ᵥ c.get = (Triangulation.normal sights).rhs.get := by
  rw [normal_matrix, normal_rhs]
  induction sights with
  | nil => simp
  | cons s rest ih =>
      rw [List.map_cons, List.map_cons, List.sum_cons, List.sum_cons, add_mulVec, stand s List.mem_cons_self,
        ih fun s later => stand s (List.mem_cons_of_mem _ later)]

theorem solve_standing (exact : ExactSvd) (sights : List (Sight ℝ)) (seen : ∀ s ∈ sights, s.bearing ≠ Vec3.zero)
    (some : sights ≠ []) (c : Vec3 ℝ) (stand : ∀ s ∈ sights, s.center = c) :
    StandsStill sights c (Triangulation.solve (Triangulation.normal sights)) := by
  have definite := normal_definite sights seen
  have only : ∀ p, Triangulation.solve (Triangulation.normal sights) = .successful p → p = c := by
    intro p found
    obtain ⟨full, solves⟩ := solve_successful exact _ definite p found
    apply space_ext
    apply mulVec_injective_of_isUnit full
    rw [solves, standing_rhs sights c stand]
  have gap : ∀ d : Svd ℝ, d.Decomposes (Triangulation.normal sights).matrix.toMatrix →
      (∀ i j, 1e-10 * d.values.get i < d.values.get j) →
      Triangulation.solve (Triangulation.normal sights) = .successful c := by
    intro d decomposes gap
    obtain ⟨p, found⟩ := gap_solves exact _ definite d decomposes gap
    rwa [only p found] at found
  refine ⟨?_, fun d decomposes => ⟨?_, gap d decomposes⟩, ?_, ?_⟩
  · rcases solve_outcomes (Triangulation.normal sights) with none | ⟨_, _, _, found⟩
    · exact .inl none
    · rw [only _ found] at found
      exact .inr found
  · exact found_gap exact _ definite d decomposes c
  · intro direction parallel
    have along : ∀ s ∈ sights, ∃ k : ℝ, k ≠ 0 ∧ s.bearing = direction.scale k := by
      intro s member
      obtain ⟨k, same⟩ := parallel s member
      exact ⟨k, (scale_nonzero direction k (same ▸ seen s member)).1, same⟩
    obtain ⟨s, member⟩ := List.exists_mem_of_ne_nil _ some
    obtain ⟨k, _, same⟩ := along s member
    exact solve_singular exact _ definite
      (parallel_singular _ direction (scale_nonzero direction k (same ▸ seen s member)).2 along)
  · intro s t pair apart
    have decomposes := exact _ definite
    exact gap _ decomposes (apart_gap sights seen s t pair apart _ decomposes)

-- Every camera that a landmark was observed with stands at one point of the world.
def Landmark.SeenFrom (g : PoseGraph ℝ) (l : Landmark ℝ) (c : Vec3 ℝ) : Prop :=
  ∀ o ∈ l.observations, ∀ camera, g.cameraToGlobal o.vertex o.frame = .ok camera → camera.position = c

omit [Spectral ℝ] in
theorem sight_center (g : PoseGraph ℝ) (o : Observation) (s : Sight ℝ) (seen : sightOf? g o = .ok (some s)) :
    ∃ camera, g.cameraToGlobal o.vertex o.frame = .ok camera ∧ s.center = camera.position := by
  obtain ⟨vertex, _, seen⟩ := (bind_ok _ _ _).mp seen
  obtain ⟨mission, _, seen⟩ := (bind_ok _ _ _).mp seen
  obtain ⟨frame, _, seen⟩ := (bind_ok _ _ _).mp seen
  obtain ⟨keypoint, _, seen⟩ := (bind_ok _ _ _).mp seen
  obtain ⟨mount, _, seen⟩ := (bind_ok _ _ _).mp seen
  cases ray : mount.camera.backProject? keypoint with
  | none =>
      rw [ray] at seen
      cases seen
  | some direction =>
      rw [ray] at seen
      obtain ⟨camera, located, same⟩ := (bind_ok _ _ _).mp seen
      cases same
      exact ⟨camera, located, rfl⟩

omit [Spectral ℝ] in
theorem sights_stand (g : PoseGraph ℝ) (l : Landmark ℝ) (c : Vec3 ℝ) (stand : l.SeenFrom g c)
    (sights : List (Sight ℝ)) (found : sightsOf g l = .ok sights) : ∀ s ∈ sights, s.center = c := by
  intro s member
  obtain ⟨all, collected, rfl⟩ := (map_ok _ _ _).mp found
  obtain ⟨_, listed, rfl⟩ := List.mem_filterMap.mp member
  obtain ⟨o, observed, seen⟩ := related_member _ _ _ ((map_m_ok _ _ _).mp collected) _ listed
  obtain ⟨camera, located, same⟩ := sight_center g o s seen
  exact same.trans (stand o observed camera located)

-- What can come of a landmark that was observed from one point of the world: it stays where it is, or it falls
-- into that point.
inductive Landmark.FallsInto (l : Landmark ℝ) (own : Pose ℝ) (c : Vec3 ℝ) (sights : List (Sight ℝ)) :
    Landmark ℝ × TriangulationResult ℝ → Prop where
  | tooFew (few : sights.length < 2) : FallsInto l own c sights (l, .tooFewMeasurements)
  | unobservable (enough : 2 ≤ sights.length) (still : StandsStill sights c .unobservable) :
      FallsInto l own c sights (l, .unobservable)
  | successful (enough : 2 ≤ sights.length) (still : StandsStill sights c (.successful c)) :
      FallsInto l own c sights (l.place (own.applyInverse c), .successful c)

theorem retriangulate_standing (exact : ExactSvd) (g : PoseGraph ℝ) (l : Landmark ℝ) (own : Pose ℝ)
    (home : g.missionToGlobal l.mission = .ok own) (c : Vec3 ℝ) (stand : l.SeenFrom g c) (sights : List (Sight ℝ))
    (found : sightsOf g l = .ok sights) :
    ∃ outcome, retriangulate g l = .ok outcome ∧ l.FallsInto own c (sights.filter Sight.isUsable) outcome := by
  have settled : retriangulate g l = settle g l (Triangulation.ofSights sights) := by
    rw [retriangulate_settles, triangulation_sights, found]
    rfl
  rw [settled, Triangulation.ofSights]
  by_cases few : (sights.filter Sight.isUsable).length < 2
  · simp only [if_pos few]
    exact ⟨_, rfl, .tooFew few⟩
  · have enough := Nat.not_lt.mp few
    have some : sights.filter Sight.isUsable ≠ [] := List.ne_nil_of_length_pos (Nat.lt_of_lt_of_le Nat.zero_lt_two enough)
    have still := solve_standing exact _ (usable_seen sights) some c fun s member =>
      sights_stand g l c stand sights found s (List.mem_filter.mp member).1
    simp only [if_neg few]
    rcases still.outcome with lost | there
    · rw [lost] at still ⊢
      exact ⟨_, rfl, .unobservable enough still⟩
    · rw [there] at still ⊢
      rw [settle, home]
      exact ⟨_, rfl, .successful enough still⟩

-- The degeneracy of a triangulation is decided by the bearings alone. Where all cameras stand at one point, that
-- point is the answer to bearings that are not close to parallel, and a landmark is put there.
theorem common_center_triangulates (exact : ExactSvd) :
    (∀ bearings centers : List (Vec3 ℝ), bearings.length = centers.length →
      2 ≤ (seenSights bearings centers).length → ∀ c, (∀ s ∈ seenSights bearings centers, s.center = c) →
      ∃ status, Triangulation.linear bearings centers = .ok status ∧ StandsStill (seenSights bearings centers) c status) ∧
    ∀ (operations : List (Operation ℝ)) (map : Map ℝ), (∀ operation ∈ operations, operation.Unlinked) →
      Operation.run operations Map.empty = .ok map → ∀ l ∈ map.landmarks, ∀ c, l.SeenFrom map.toPoseGraph c →
      ∃ own sights outcome, map.missionToGlobal l.mission = .ok own ∧ sightsOf map.toPoseGraph l = .ok sights ∧
        retriangulate map.toPoseGraph l = .ok outcome ∧ l.FallsInto own c (sights.filter Sight.isUsable) outcome := by
  constructor
  · intro bearings centers paired enough c stand
    refine ⟨_, linear_paired bearings centers paired, ?_⟩
    rw [Triangulation.ofSights, seen_usable, if_neg (Nat.not_lt.mpr enough)]
    exact solve_standing exact _ (fun s member => (seen_bearing _ _ s member).2)
      (List.ne_nil_of_length_pos (Nat.lt_of_lt_of_le Nat.zero_lt_two enough)) c stand
  · intro operations map unlinked done l member c stand
    obtain ⟨consistent, linked⟩ := run_linked operations map unlinked done
    obtain ⟨own, home⟩ := landmark_home map consistent l member
    obtain ⟨sightings, aligned, _⟩ := sightings_aligned map.toPoseGraph l fun o observed =>
      observation_resolves map consistent linked l member o observed
    rw [sightings_sights] at aligned
    obtain ⟨sights, found, _⟩ := (map_ok _ _ _).mp aligned
    obtain ⟨outcome, settled, falls⟩ := retriangulate_standing exact map.toPoseGraph l own home c stand sights found
    exact ⟨own, sights, outcome, home, found, settled, falls⟩

end Standing

-- A body that turns on one spot, and a landmark that is seen along the first axis of the world and then along the
-- second.

noncomputable def turnedVertex (id : VertexId) (q : Quaternion ℝ) : Vertex ℝ :=
  ⟨id, Id.ofNat 1, ⟨0⟩, BodyState.atPose ⟨q, ⟨1, 2, 3⟩⟩, [Frame.empty]⟩

noncomputable def turningBody : List (Operation ℝ) :=
  [.addMission (Id.ofNat 1) Pose.identity ⟨[⟨idealCamera, Pose.identity⟩]⟩,
    .addVertex (turnedVertex firstObserver thirdTurn) (.create firstObserver (Id.ofNat 1) ⟨0⟩ _ 1 _ rfl),
    .addVertex (turnedVertex secondObserver thirdTurn.conj) (.create secondObserver (Id.ofNat 1) ⟨0⟩ _ 1 _ rfl),
    .addLandmark ⟨Id.ofNat 5, Id.ofNat 1, none, .unknown, []⟩ fresh_landmark_built,
    .addObservation (Id.ofNat 5) firstObserver 0 ⟨320, 240⟩,
    .addObservation (Id.ofNat 5) secondObserver 0 ⟨320, 240⟩,
    .pass (.setPosition (Id.ofNat 5) ⟨9, 9, 9⟩)]

theorem turning_unlinked : ∀ operation ∈ turningBody, operation.Unlinked := by
  simp [turningBody, turnedVertex, Operation.Unlinked]

noncomputable def turningMap : Map ℝ :=
  (@Operation.run ℝ _ eigenSpectral turningBody Map.empty).toOption.getD Map.empty

noncomputable def turningLandmark : Landmark ℝ :=
  ⟨Id.ofNat 5, Id.ofNat 1, some ⟨9, 9, 9⟩, .unknown, [⟨firstObserver, 0, 0⟩, ⟨secondObserver, 0, 0⟩]⟩

noncomputable def turnedView (q : Quaternion ℝ) : Pose ℝ :=
  Pose.identity * (⟨q, ⟨1, 2, 3⟩⟩ : Pose ℝ) * Pose.identity.inverse

theorem turned_view (q : Quaternion ℝ) : turnedView q = ⟨q, ⟨1, 2, 3⟩⟩ := by
  norm_num [turnedView, pose_product, quaternion_product, Pose.inverse, Pose.identity, Quaternion.identity,
    Quaternion.conj, Quaternion.rotate, Quaternion.imag, Vec3.cross, Vec3.scale, Vec3.zero, add_coordinates,
    neg_coordinates]

theorem turning_stands : turningLandmark.SeenFrom turningMap.toPoseGraph ⟨1, 2, 3⟩ := by
  refine List.forall_mem_cons.mpr ⟨?_, List.forall_mem_singleton.mpr ?_⟩
  · intro camera located
    have view : turnedView thirdTurn = camera := Except.ok.inj located
    rw [← view, turned_view]
  · intro camera located
    have view : turnedView thirdTurn.conj = camera := Except.ok.inj located
    rw [← view, turned_view]

def crossedBearings : List (Vec3 ℝ) := [⟨1, 0, 0⟩, ⟨0, 1, 0⟩]

def sharedCenters : List (Vec3 ℝ) := [⟨1, 2, 3⟩, ⟨1, 2, 3⟩]

noncomputable def crossedSights : List (Sight ℝ) := [⟨⟨1, 0, 0⟩, ⟨1, 2, 3⟩⟩, ⟨⟨0, 1, 0⟩, ⟨1, 2, 3⟩⟩]

theorem turning_sights : sightsOf turningMap.toPoseGraph turningLandmark = .ok crossedSights := by
  have collected : sightsOf turningMap.toPoseGraph turningLandmark =
    .ok [⟨(turnedView thirdTurn).rotation.rotate ⟨(320 - 320) / 400, (240 - 240) / 400, 1⟩, (turnedView thirdTurn).position⟩,
      ⟨(turnedView thirdTurn.conj).rotation.rotate ⟨(320 - 320) / 400, (240 - 240) / 400, 1⟩,
        (turnedView thirdTurn.conj).position⟩] := rfl
  rw [collected, turned_view, turned_view, turn_forth, turn_back]
  norm_num [crossedSights]

theorem crossed_usable : crossedSights.filter Sight.isUsable = crossedSights := by
  simp [crossedSights, usable_exact, Vec3.zero]

theorem crossed_seen : seenSights crossedBearings sharedCenters = crossedSights := by
  rw [← seen_usable, crossedBearings, sharedCenters, ← crossed_usable]
  rfl

theorem crossed_stand : ∀ s ∈ crossedSights, s.center = ⟨1, 2, 3⟩ := by
  simp [crossedSights]

-- The two rays are at a right angle.
theorem crossed_found (status : TriangulationResult ℝ) (still : StandsStill crossedSights ⟨1, 2, 3⟩ status) :
    status = .successful ⟨1, 2, 3⟩ := by
  refine still.apart _ _ (List.Sublist.refl _) ?_
  norm_num [crossedSights, Sight.ray, Vec3.divide, Vec3.dot]

theorem crossed_falls (own : Pose ℝ) (outcome : Landmark ℝ × TriangulationResult ℝ)
    (falls : turningLandmark.FallsInto own ⟨1, 2, 3⟩ (crossedSights.filter Sight.isUsable) outcome) :
    outcome = (turningLandmark.place (own.applyInverse ⟨1, 2, 3⟩), .successful ⟨1, 2, 3⟩) := by
  rw [crossed_usable] at falls
  cases falls with
  | tooFew few => exact absurd few (lt_irrefl 2)
  | unobservable _ still => cases crossed_found _ still
  | successful _ _ => rfl

theorem turning_body_standing :
    ∃ (_ : Spectral ℝ) (map : Map ℝ), ExactSvd ∧ 2 ≤ (seenSights crossedBearings sharedCenters).length ∧
      (∀ s ∈ seenSights crossedBearings sharedCenters, s.center = ⟨1, 2, 3⟩) ∧
      Triangulation.linear crossedBearings sharedCenters = .ok (.successful ⟨1, 2, 3⟩) ∧
      (∀ operation ∈ turningBody, operation.Unlinked) ∧ Operation.run turningBody Map.empty = .ok map ∧
      turningLandmark ∈ map.landmarks ∧ turningLandmark.SeenFrom map.toPoseGraph ⟨1, 2, 3⟩ ∧
      ∃ own, map.missionToGlobal turningLandmark.mission = .ok own ∧
        retriangulate map.toPoseGraph turningLandmark =
          .ok (turningLandmark.place (own.applyInverse ⟨1, 2, 3⟩), .successful ⟨1, 2, 3⟩) := by
  let _ : Spectral ℝ := eigenSpectral
  obtain ⟨rays, maps⟩ := common_center_triangulates eigen_spectral_exact
  have enough : 2 ≤ (seenSights crossedBearings sharedCenters).length := by
    rw [crossed_seen]
    exact le_rfl
  have stand : ∀ s ∈ seenSights crossedBearings sharedCenters, s.center = ⟨1, 2, 3⟩ := crossed_seen ▸ crossed_stand
  obtain ⟨status, done, still⟩ := rays crossedBearings sharedCenters rfl enough ⟨1, 2, 3⟩ stand
  rw [crossed_seen] at still
  cases crossed_found status still
  have member : turningLandmark ∈ turningMap.landmarks := List.mem_singleton.mpr rfl
  obtain ⟨own, sights, outcome, home, collected, settled, falls⟩ :=
    maps turningBody turningMap turning_unlinked rfl turningLandmark member ⟨1, 2, 3⟩ turning_stands
  cases turning_sights.symm.trans collected
  rw [crossed_falls own outcome falls] at settled
  exact ⟨eigenSpectral, turningMap, eigen_spectral_exact, enough, stand, done, turning_unlinked, rfl, member, turning_stands,
    own, home, settled⟩

-- Two cameras at one point triangulate, and a landmark that only they observed is moved.
theorem turning_body_moves_landmark :
    ∃ (_ : Spectral ℝ) (map : Map ℝ), ExactSvd ∧
      Triangulation.linear crossedBearings sharedCenters = .ok (.successful ⟨1, 2, 3⟩) ∧
      Operation.run turningBody Map.empty = .ok map ∧ turningLandmark ∈ map.landmarks ∧
      turningLandmark.SeenFrom map.toPoseGraph ⟨1, 2, 3⟩ ∧ turningLandmark.position = some ⟨9, 9, 9⟩ ∧
      retriangulate map.toPoseGraph turningLandmark =
        .ok (turningLandmark.place ⟨1, 2, 3⟩, .successful ⟨1, 2, 3⟩) := by
  let _ : Spectral ℝ := eigenSpectral
  have seen : ∀ s ∈ crossedSights, s.bearing ≠ Vec3.zero := crossed_usable ▸ usable_seen crossedSights
  have solved := crossed_found _ (solve_standing eigen_spectral_exact crossedSights seen (by simp [crossedSights])
    ⟨1, 2, 3⟩ crossed_stand)
  have found : Triangulation.ofSights crossedSights = .successful ⟨1, 2, 3⟩ := by
    rw [Triangulation.ofSights, crossed_usable, solved]
    rfl
  have member : turningLandmark ∈ turningMap.landmarks := List.mem_singleton.mpr rfl
  refine ⟨eigenSpectral, turningMap, eigen_spectral_exact, ?_, rfl, member, turning_stands, rfl, ?_⟩
  · exact (linear_paired crossedBearings sharedCenters rfl).trans (congrArg Except.ok found)
  · obtain ⟨outcome, settled, falls⟩ := retriangulate_standing eigen_spectral_exact turningMap.toPoseGraph turningLandmark
      Pose.identity rfl ⟨1, 2, 3⟩ turning_stands crossedSights turning_sights
    have home : (Pose.identity : Pose ℝ).applyInverse ⟨1, 2, 3⟩ = ⟨1, 2, 3⟩ := by
      norm_num [Pose.applyInverse, Pose.identity, identity_conj, identity_rotate, sub_coordinates, Vec3.zero]
    rw [settled, crossed_falls _ outcome falls, home]

end LandmarkMap
