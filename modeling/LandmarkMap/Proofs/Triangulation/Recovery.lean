import LandmarkMap.Proofs.Camera.BackProjection
import LandmarkMap.Proofs.Map.PassFaults
import LandmarkMap.Proofs.Map.Provenance
import LandmarkMap.Proofs.Triangulation.Sightings
import LandmarkMap.Proofs.Triangulation.SingularValues

set_option autoImplicit false

namespace LandmarkMap

open Matrix

def Pinhole.IsIdeal (c : Pinhole ℝ) : Prop := c.distortion.kind = .ideal

-- The keypoint of an observation is the image of a point of the world that lies in front of its
-- camera.
def PoseGraph.Sees (g : PoseGraph ℝ) (o : Observation) (p : Vec3 ℝ) : Prop :=
  ∃ found camera projection, g.Resolves o found ∧ g.cameraToGlobal o.vertex o.frame = .ok camera ∧
    0 < (camera.applyInverse p).z ∧ found.mount.camera.project (camera.applyInverse p) = .ok projection ∧
    found.keypoint = projection.keypoint

section Ray

variable (c : Pinhole ℝ) (ideal : c.IsIdeal)

include ideal

theorem ideal_back_project (m : Vec2 ℝ) : c.backProject? (c.intrinsics.pixel m) = some ⟨m.x, m.y, 1⟩ := by
  rw [Pinhole.backProject?, back_project_ray, on_plane_pixel]
  exact ⟨rfl, undistort_ideal _ _ _ ideal⟩

-- The ray behind the image of a point has depth one, the point has a depth of its own.
theorem back_project_image (p : Vec3 ℝ) (front : 0 < p.z) (projection : Projection c.distortion.kind.count ℝ)
    (projected : c.project p = .ok projection) : c.backProject? projection.keypoint = some (p.scale p.z⁻¹) := by
  obtain ⟨outcome, _, image⟩ := project_front c c.intrinsics c.distortion.parameters p front
  have same := Except.ok.inj (projected.symm.trans image)
  have pixel : projection.keypoint = c.intrinsics.pixel (imagePoint p) := by
    rw [same, ← ideal_distort ⟨c.distortion.kind, c.distortion.parameters⟩ (imagePoint p) ideal]
    rfl
  rw [pixel, ideal_back_project c ideal, imagePoint, Vec3.scale, one_div, mul_inv_cancel₀ front.ne']

end Ray

-- A sight that does not miss a point.
structure Sight.Meets (s : Sight ℝ) (p : Vec3 ℝ) : Prop where
  seen : s.bearing ≠ Vec3.zero
  through : p.point ∈ s.line

theorem seen_meets (g : PoseGraph ℝ) (holds : g.Holds Pose.IsRigid Pinhole.IsIdeal) (o : Observation) (p : Vec3 ℝ)
    (sees : g.Sees o p) : ∃ sight, sightOf? g o = .ok (some sight) ∧ sight.Meets p := by
  obtain ⟨found, camera, projection, resolves, located, front, projected, keypoint⟩ := sees
  have rigid := rigid_camera g _ holds o.vertex o.frame camera located
  have ideal := (resolved_held _ _ g holds o found resolves).2.2.2
  set q := camera.applyInverse p with inside
  have ray := back_project_image found.mount.camera ideal q front projection projected
  rw [← keypoint] at ray
  refine ⟨⟨camera.rotation.rotate (q.scale q.z⁻¹), camera.position⟩, ?_, ?_, ?_⟩
  · have standing := Except.ok.inj ((resolved_camera g o found resolves).symm.trans located)
    rw [resolved_sight g o found resolves, Lookups.sight?, ray, standing]
    rfl
  · intro none
    rw [rotate_zero _ rigid] at none
    have depth : q.z * q.z⁻¹ = 0 := congrArg Vec3.z none
    rw [mul_inv_cancel₀ front.ne'] at depth
    exact one_ne_zero depth
  · refine ⟨q.z, ?_⟩
    have back : p = camera.apply q := (apply_forth camera p rigid).symm
    rw [back, rotate_scale _ rigid]
    ext i
    simp only [Vec3.point, Pose.apply, space_get_add, space_get_scale, WithLp.ofLp_add, WithLp.ofLp_smul, Pi.add_apply, Pi.smul_apply,
      smul_eq_mul]
    rw [← mul_assoc, mul_inv_cancel₀ front.ne', one_mul, add_comm]

section Recovered

variable [Spectral ℝ]

-- What a triangulation of a landmark at a point of its mission can end in: the landmark stays as it
-- is, or it comes to lie exactly there.
inductive Landmark.SettlesAt (l : Landmark ℝ) (own : Pose ℝ) (p : Vec3 ℝ) :
    Landmark ℝ × TriangulationResult ℝ → Prop where
  | tooFew : SettlesAt l own p (l, .tooFewMeasurements)
  | unobservable : SettlesAt l own p (l, .unobservable)
  | found : SettlesAt l own p (l.place p, .successful (own.apply p))

structure Landmark.Recovers (g : PoseGraph ℝ) (l : Landmark ℝ) (own : Pose ℝ) (p : Vec3 ℝ) : Prop where
  settles : ∃ outcome, retriangulate g l = .ok outcome ∧ l.SettlesAt own p outcome
  determined : ∃ sightings, sightingsOf g l = .ok sightings ∧ (2 ≤ l.observations.length → ∀ d : Svd ℝ,
    d.Decomposes (Triangulation.normal (sightings.sights.filter Sight.isUsable)).matrix.toMatrix →
    (∀ i j, 1e-10 * d.values.get i < d.values.get j) →
    retriangulate g l = .ok (l.place p, .successful (own.apply p)))

-- The gap between the singular values is that of any decomposition of the matrix.
theorem gap_solves (exact : ExactSvd) (n : Triangulation.Normal ℝ) (definite : n.matrix.toMatrix.PosSemidef) (d : Svd ℝ)
    (decomposes : d.Decomposes n.matrix.toMatrix) (gap : ∀ i j, 1e-10 * d.values.get i < d.values.get j) :
    ∃ p, Triangulation.solve n = .successful p := by
  have same := values_unique d (Spectral.svd n.matrix) _ decomposes (exact n.matrix definite)
  have apart : ∀ x ∈ (Spectral.svd n.matrix).values.toList, ∀ y ∈ (Spectral.svd n.matrix).values.toList, 1e-10 * x < y := by
    intro x first y second
    obtain ⟨i, rfl⟩ := (values_listed _ _).mp (same.mem_iff.mp first)
    obtain ⟨j, rfl⟩ := (values_listed _ _).mp (same.mem_iff.mp second)
    exact gap i j
  have largest := largest_listed (Spectral.svd n.matrix)
  have positive : 0 < (Spectral.svd n.matrix).largest := by
    have itself := apart _ largest _ largest
    norm_num at itself
    linarith
  refine solve_found n positive fun i => ?_
  exact apart _ largest _ ((values_listed _ _).mpr ⟨i, rfl⟩)

theorem sights_meet (exact : ExactSvd) (sights : List (Sight ℝ)) (p q : Vec3 ℝ) (meet : ∀ s ∈ sights, s.Meets p)
    (found : Triangulation.ofSights sights = .successful q) : q = p := by
  have solves := sights_solve exact (sights.map (·.bearing)) (sights.map (·.center)) (by simp)
  have listed : (sights.map (·.bearing)).zipWith Sight.mk (sights.map (·.center)) = sights := listed_sights sights
  rw [listed] at solves
  refine solves.common q found p fun s member => (meet s ?_).through
  rw [← listed]
  exact (List.mem_filter.mp member).1

theorem sights_recover (exact : ExactSvd) (g : PoseGraph ℝ) (holds : g.Holds Pose.IsRigid Pinhole.IsIdeal)
    (l : Landmark ℝ) (own : Pose ℝ) (home : g.missionToGlobal l.mission = .ok own) (p : Vec3 ℝ)
    (sees : ∀ o ∈ l.observations, g.Sees o (own.apply p)) : l.Recovers g own p := by
  have rigid := rigid_base g _ holds l.mission own home
  obtain ⟨sights, collected, count, meet⟩ :=
    sights_found g l (fun s => s.Meets (own.apply p)) fun o observed => seen_meets g holds o _ (sees o observed)
  have outcome : ∀ result, Triangulation.ofSights sights = result → retriangulate g l = settle g l result := by
    rintro _ rfl
    rw [retriangulate_settles, triangulation_sights, collected]
    rfl
  have there : ∀ q, Triangulation.ofSights sights = .successful q →
      retriangulate g l = .ok (l.place p, .successful (own.apply p)) := by
    intro q found
    have meets := sights_meet exact sights (own.apply p) q meet found
    subst meets
    rw [outcome _ found, settle, home]
    change Except.ok (l.place (own.applyInverse (own.apply p)), _) = _
    rw [apply_back own p rigid]
  constructor
  · cases triangulated : Triangulation.ofSights sights with
    | successful q => exact ⟨_, there q triangulated, .found⟩
    | tooFewMeasurements => exact ⟨_, outcome _ triangulated, .tooFew⟩
    | unobservable => exact ⟨_, outcome _ triangulated, .unobservable⟩
  · refine ⟨Sightings.ofSights sights, ?_, ?_⟩
    · rw [sightings_sights, collected]
      rfl
    · intro enough d decomposes gap
      have usable : sights.filter Sight.isUsable = sights := by
        refine List.filter_eq_self.mpr fun s member => ?_
        rw [usable_exact]
        exact decide_eq_true (meet s member).seen
      rw [listed_sights, usable] at decomposes
      have definite := normal_definite sights fun s member => (meet s member).seen
      obtain ⟨q, solved⟩ := gap_solves exact _ definite d decomposes gap
      refine there q ?_
      rw [Triangulation.ofSights, usable]
      exact (if_neg (by omega)).trans solved

-- The position and the label from before play no part.
theorem noise_free_recovery (exact : ExactSvd) (operations : List (Operation ℝ)) (map : Map ℝ)
    (brings : ∀ operation ∈ operations, operation.Brings Pose.IsRigid Pinhole.IsIdeal)
    (done : Operation.run operations Map.empty = .ok map) (l : Landmark ℝ) (member : l ∈ map.landmarks) :
    ∃ own, map.missionToGlobal l.mission = .ok own ∧
      ∀ p, (∀ o ∈ l.observations, map.Sees o (own.apply p)) →
        ∀ position quality, Landmark.Recovers map.toPoseGraph { l with position, quality } own p := by
  have holds := run_holds _ _ operations map brings done
  obtain ⟨own, home⟩ := landmark_home map (run_consistent operations map done) l member
  refine ⟨own, home, fun p sees position quality => ?_⟩
  exact sights_recover exact map.toPoseGraph holds { l with position, quality } own home p sees

end Recovered

-- Two missions whose bases are turned by a third of a turn, one this way and one that way, and a
-- camera that is mounted off its body. A landmark of the first mission is seen from both, along the
-- first axis of the world and along the second.

noncomputable def thirdTurn : Quaternion ℝ := ⟨1 / 2, 1 / 2, 1 / 2, 1 / 2⟩

noncomputable def idealCamera : Pinhole ℝ where
  name := "ideal"
  width := 640
  height := 480
  fx := 400
  fy := 400
  cx := 320
  cy := 240
  distortion := .ideal
  focal := ⟨⟨by norm_num, by norm_num⟩, rfl, rfl⟩
  size := ⟨by decide, by decide⟩

noncomputable def offsetRig : Rig ℝ := ⟨[⟨idealCamera, Pose.atPosition ⟨0, 0, 1⟩⟩]⟩

def firstObserver : VertexId := Id.ofNat 2

def secondObserver : VertexId := Id.ofNat 3

noncomputable def watchingVertex (id : VertexId) (mission : MissionId) (p : Vec3 ℝ) : Vertex ℝ :=
  ⟨id, mission, ⟨0⟩, BodyState.atPose (Pose.atPosition p), [Frame.empty]⟩

noncomputable def turnedMissions : List (Operation ℝ) :=
  [.addMission (Id.ofNat 1) ⟨thirdTurn, ⟨1, 0, 0⟩⟩ offsetRig,
    .addMission (Id.ofNat 7) ⟨thirdTurn.conj, ⟨0, 1, 0⟩⟩ offsetRig,
    .addVertex (watchingVertex firstObserver (Id.ofNat 1) ⟨2, 3, 1⟩)
      (.create firstObserver (Id.ofNat 1) ⟨0⟩ _ 1 _ rfl),
    .addVertex (watchingVertex secondObserver (Id.ofNat 7) ⟨3, 6, 0⟩)
      (.create secondObserver (Id.ofNat 7) ⟨0⟩ _ 1 _ rfl),
    .addLandmark ⟨Id.ofNat 5, Id.ofNat 1, none, .unknown, []⟩ fresh_landmark_built,
    .addObservation (Id.ofNat 5) firstObserver 0 ⟨320, 240⟩,
    .addObservation (Id.ofNat 5) secondObserver 0 ⟨320, 240⟩,
    .pass (.setPosition (Id.ofNat 5) ⟨9, 9, 9⟩),
    .pass (.setQuality (Id.ofNat 5) .good)]

noncomputable def firstView : Pose ℝ := ⟨thirdTurn, ⟨1, 0, 0⟩⟩ * Pose.atPosition ⟨2, 3, 1⟩ * (Pose.atPosition ⟨0, 0, 1⟩).inverse

noncomputable def secondView : Pose ℝ := ⟨thirdTurn.conj, ⟨0, 1, 0⟩⟩ * Pose.atPosition ⟨3, 6, 0⟩ * (Pose.atPosition ⟨0, 0, 1⟩).inverse

theorem first_view : firstView = ⟨thirdTurn, ⟨1, 2, 3⟩⟩ := by
  norm_num [firstView, pose_product, quaternion_product, Pose.inverse, Pose.atPosition, thirdTurn,
    Quaternion.identity, Quaternion.conj, Quaternion.rotate, Quaternion.imag, Vec3.cross, Vec3.scale,
    add_coordinates, neg_coordinates]

theorem second_view : secondView = ⟨thirdTurn.conj, ⟨6, 0, 3⟩⟩ := by
  norm_num [secondView, pose_product, quaternion_product, Pose.inverse, Pose.atPosition, thirdTurn,
    Quaternion.identity, Quaternion.conj, Quaternion.rotate, Quaternion.imag, Vec3.cross, Vec3.scale,
    add_coordinates, neg_coordinates]

theorem turn_forth (v : Vec3 ℝ) : thirdTurn.rotate v = ⟨v.z, v.x, v.y⟩ := by
  norm_num [thirdTurn, Quaternion.rotate, Quaternion.imag, Vec3.cross, Vec3.scale, add_coordinates]
  refine ⟨?_, ?_, ?_⟩ <;> ring

theorem turn_back (v : Vec3 ℝ) : thirdTurn.conj.rotate v = ⟨v.y, v.z, v.x⟩ := by
  norm_num [thirdTurn, Quaternion.conj, Quaternion.rotate, Quaternion.imag, Vec3.cross, Vec3.scale, add_coordinates]
  refine ⟨?_, ?_, ?_⟩ <;> ring

theorem third_turn_unit : thirdTurn.IsUnit := by
  rw [unit_dot, quaternion_dot]
  norm_num [thirdTurn]

theorem offset_rig_meets (lens : Pinhole ℝ → Prop) (holds : lens idealCamera) :
    ∀ mount ∈ offsetRig.mounts, mount.Meets Pose.IsRigid lens := by
  intro mount member
  rw [List.mem_singleton.mp member]
  exact ⟨at_position_rigid _, holds⟩

theorem turned_brings : ∀ operation ∈ turnedMissions, operation.Brings Pose.IsRigid Pinhole.IsIdeal := by
  have rig := offset_rig_meets Pinhole.IsIdeal rfl
  simp only [turnedMissions, List.forall_mem_cons]
  exact ⟨⟨third_turn_unit, rig⟩, ⟨unit_conj _ third_turn_unit, rig⟩, at_position_rigid _, at_position_rigid _, trivial, trivial,
    trivial, trivial, trivial, List.forall_mem_nil _⟩

noncomputable def turnedLandmark : Landmark ℝ :=
  ⟨Id.ofNat 5, Id.ofNat 1, some ⟨9, 9, 9⟩, .good, [⟨firstObserver, 0, 0⟩, ⟨secondObserver, 0, 0⟩]⟩

theorem ideal_pixel (q : Vec3 ℝ) :
    pixelOf idealCamera.intrinsics ⟨idealCamera.distortion.kind, idealCamera.distortion.parameters⟩ q =
      ⟨400 * (q.x * (1 / q.z)) + 320, 400 * (q.y * (1 / q.z)) + 240⟩ := by
  rw [pixelOf, ideal_distort _ _ rfl]
  rfl

theorem ideal_center (z : ℝ) (front : 0 < z) :
    ∃ projection, idealCamera.project ⟨0, 0, z⟩ = .ok projection ∧ (⟨320, 240⟩ : Vec2 ℝ) = projection.keypoint := by
  obtain ⟨outcome, _, image⟩ := project_front idealCamera idealCamera.intrinsics idealCamera.distortion.parameters ⟨0, 0, z⟩ front
  refine ⟨_, image, ?_⟩
  rw [ideal_pixel, zero_mul, mul_zero, zero_add, zero_add]

noncomputable def turnedMap : Map ℝ :=
  (@Operation.run ℝ _ eigenSpectral turnedMissions Map.empty).toOption.getD Map.empty

theorem turned_sees : ∀ o ∈ turnedLandmark.observations, turnedMap.Sees o ⟨6, 2, 3⟩ := by
  have first : firstView.applyInverse ⟨6, 2, 3⟩ = ⟨0, 0, 5⟩ := by
    rw [first_view, Pose.applyInverse, turn_back, sub_coordinates]
    norm_num
  have second : secondView.applyInverse ⟨6, 2, 3⟩ = ⟨0, 0, 2⟩ := by
    rw [second_view, Pose.applyInverse, conj_conj, turn_forth, sub_coordinates]
    norm_num
  obtain ⟨image, projected, keypoint⟩ := ideal_center 5 (by norm_num)
  obtain ⟨image', projected', keypoint'⟩ := ideal_center 2 (by norm_num)
  rw [← first] at projected
  rw [← second] at projected'
  refine List.forall_mem_cons.mpr ⟨?_, List.forall_mem_singleton.mpr ?_⟩
  · refine ⟨⟨_, _, _, _, _⟩, firstView, image, ⟨rfl, rfl, rfl, rfl, rfl⟩, rfl, ?_, projected, keypoint⟩
    rw [first]
    norm_num
  · refine ⟨⟨_, _, _, _, _⟩, secondView, image', ⟨rfl, rfl, rfl, rfl, rfl⟩, rfl, ?_, projected', keypoint'⟩
    rw [second]
    norm_num

theorem turned_global : Pose.apply ⟨thirdTurn, ⟨1, 0, 0⟩⟩ ⟨2, 3, 5⟩ = ⟨6, 2, 3⟩ := by
  rw [Pose.apply, turn_forth, add_coordinates]
  norm_num

theorem turned_sightings :
    sightingsOf turnedMap.toPoseGraph turnedLandmark = .ok ⟨[⟨1, 0, 0⟩, ⟨0, 1, 0⟩], [⟨1, 2, 3⟩, ⟨6, 0, 3⟩]⟩ := by
  have along : thirdTurn.rotate ⟨(320 - 320) / 400, (240 - 240) / 400, 1⟩ = ⟨1, 0, 0⟩ := by
    rw [turn_forth]
    norm_num
  have across : thirdTurn.conj.rotate ⟨(320 - 320) / 400, (240 - 240) / 400, 1⟩ = ⟨0, 1, 0⟩ := by
    rw [turn_back]
    norm_num
  have collected : sightingsOf turnedMap.toPoseGraph turnedLandmark =
    .ok ⟨[firstView.rotation.rotate ⟨(320 - 320) / 400, (240 - 240) / 400, 1⟩, secondView.rotation.rotate ⟨(320 - 320) / 400, (240 - 240) / 400, 1⟩], [firstView.position, secondView.position]⟩ := rfl
  rw [collected, first_view, second_view, along, across]

theorem turned_normal (sights : Sightings ℝ) (collected : sightingsOf turnedMap.toPoseGraph turnedLandmark = .ok sights) :
    (Triangulation.normal (sights.sights.filter Sight.isUsable)).matrix.toMatrix = diagonal ![1, 1, 2] := by
  cases turned_sightings.symm.trans collected
  have usable : (Sightings.sights ⟨[⟨1, 0, 0⟩, ⟨0, 1, 0⟩], [⟨1, 2, 3⟩, ⟨6, 0, 3⟩]⟩).filter Sight.isUsable =
      [⟨⟨1, 0, 0⟩, ⟨1, 2, 3⟩⟩, (⟨⟨0, 1, 0⟩, ⟨6, 0, 3⟩⟩ : Sight ℝ)] := by
    simp [Sightings.sights, usable_exact, Vec3.zero]
  rw [usable, normal_matrix, List.map_cons, List.map_cons, List.map_nil, List.sum_cons, List.sum_cons, List.sum_nil,
    projector_matrix, projector_matrix]
  ext i j
  fin_cases i <;> fin_cases j <;>
    norm_num [Vec3.get, dotProduct, Fin.sum_univ_three, vecMulVec_apply, diagonal_apply, one_apply]

-- The sights cross at a right angle, which is gap enough.
theorem turned_settled (recovered : @Landmark.Recovers eigenSpectral turnedMap.toPoseGraph turnedLandmark
    ⟨thirdTurn, ⟨1, 0, 0⟩⟩ ⟨2, 3, 5⟩) :
    @retriangulate ℝ _ eigenSpectral turnedMap.toPoseGraph turnedLandmark =
      .ok (turnedLandmark.place ⟨2, 3, 5⟩, .successful ⟨6, 2, 3⟩) := by
  let _ : Spectral ℝ := eigenSpectral
  obtain ⟨sightings, collected, determined⟩ := recovered.determined
  have normal := turned_normal sightings collected
  set n := Triangulation.normal (sightings.sights.filter Sight.isUsable)
  have definite : n.matrix.toMatrix.PosSemidef := by
    rw [normal]
    refine PosSemidef.diagonal fun i => ?_
    fin_cases i <;> norm_num
  have decomposes := eigen_spectral_exact n.matrix definite
  have values := crossing_bounds _ (normal ▸ decomposes)
  rw [← turned_global]
  refine determined le_rfl _ decomposes fun i j => ?_
  calc 1e-10 * (Spectral.svd n.matrix).values.get i ≤ 1e-10 * 2 := by
        gcongr
        exact (values i).2
    _ < 1 := by norm_num
    _ ≤ (Spectral.svd n.matrix).values.get j := (values j).1

theorem turned_landmark_recovered :
    ∃ (_ : Spectral ℝ) (map : Map ℝ), ExactSvd ∧
      (∀ operation ∈ turnedMissions, operation.Brings Pose.IsRigid Pinhole.IsIdeal) ∧
      Operation.run turnedMissions Map.empty = .ok map ∧ turnedLandmark ∈ map.landmarks ∧
      (∀ o ∈ turnedLandmark.observations, map.Sees o ⟨6, 2, 3⟩) ∧
      retriangulate map.toPoseGraph turnedLandmark = .ok (turnedLandmark.place ⟨2, 3, 5⟩, .successful ⟨6, 2, 3⟩) := by
  let _ : Spectral ℝ := eigenSpectral
  have member : turnedLandmark ∈ turnedMap.landmarks := List.mem_singleton.mpr rfl
  refine ⟨eigenSpectral, turnedMap, eigen_spectral_exact, turned_brings, rfl, member, turned_sees, ?_⟩
  obtain ⟨own, home, recovers⟩ :=
    noise_free_recovery eigen_spectral_exact turnedMissions turnedMap turned_brings rfl turnedLandmark member
  obtain rfl : ⟨thirdTurn, ⟨1, 0, 0⟩⟩ = own := Except.ok.inj home
  exact turned_settled (recovers ⟨2, 3, 5⟩ (turned_global ▸ turned_sees) turnedLandmark.position turnedLandmark.quality)

end LandmarkMap
