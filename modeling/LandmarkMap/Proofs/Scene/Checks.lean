import LandmarkMap.Proofs.Exact.Planes
import LandmarkMap.Proofs.Scene.WellFormed
import LandmarkMap.Scene.Check

set_option autoImplicit false

namespace LandmarkMap.Scene

section Read

variable {α : Type} [Scalar α] (c : SceneConfig α) (source : RandomSource α) (s : Scene α)

theorem sighted_reprojects (id : LandmarkId) (o : Observation) (p : Vec3 α) (seen stored : Vec2 α)
    (sighted : s.map.sight o.vertex o.frame p = .ok (some seen))
    (recorded : Records s.map.toPoseGraph id o (o.vertex, o.frame) stored) : s.reproject p o = .ok (.visible, seen, stored) := by
  obtain ⟨_, v, f, there, framed, _, shown⟩ := recorded
  obtain ⟨vertex, found, sighted⟩ := (bind_ok _ _ _).mp sighted
  cases there.symm.trans ((vertex_ok _ _ _).mp found)
  obtain ⟨mission, home, sighted⟩ := (bind_ok _ _ _).mp sighted
  obtain ⟨mount, mounted, sighted⟩ := (bind_ok _ _ _).mp sighted
  obtain ⟨projection, projected, sighted⟩ := (bind_ok _ _ _).mp sighted
  have keypoint : (fetch f.keypoints o.keypoint : Except (Fault α) (Vec2 α)) = .ok stored := (fetch_ok _ _ _).mpr shown
  rw [reproject, found, ok_bind, home, ok_bind, mounted, ok_bind, (frame_ok _ _ _).mpr framed, ok_bind, keypoint, ok_bind,
    projected, ok_bind]
  by_cases visible : projection.outcome = .visible
  · rw [if_pos visible] at sighted
    cases sighted
    rw [visible]
    rfl
  · rw [if_neg visible] at sighted
    cases sighted

section LaidOut

variable (laid : LaidOut c source s)

include laid

theorem truth_found (i : Nat) (id : LandmarkId) (p : Vec3 α) (listed : s.truth[i]? = some (id, p)) :
    ∃ l, s.map.landmarks[i]? = some l ∧ l.id = id ∧ l.position = some p := by
  have named := congrArg (fun ids => ids[i]?) laid.truth
  simp only [Map.landmarkIds, List.getElem?_map, listed, Option.map_some] at named
  obtain ⟨l, there, same⟩ := Option.map_eq_some_iff.mp named.symm
  obtain ⟨q, placed, _, position, _⟩ := laid.placed i l there
  cases listed.symm.trans placed
  exact ⟨l, there, rfl, position⟩

theorem landmark_paired (l : Landmark α) (id : LandmarkId) (p : Vec3 α) (member : (l, id, p) ∈ s.map.landmarks.zip s.truth) :
    l ∈ s.map.landmarks ∧ l.id = id ∧ l.position = some p := by
  obtain ⟨i, found⟩ := List.mem_iff_getElem?.mp member
  obtain ⟨there, listed⟩ := List.getElem?_zip_eq_some.mp found
  obtain ⟨other, same, named, position⟩ := truth_found c source s laid i id p listed
  cases there.symm.trans same
  exact ⟨List.mem_of_getElem? there, named, position⟩

theorem sighting_true (p : Vec3 α) (sighting : Sighting α) (member : sighting ∈ sightings c s.map.toPoseGraph p) :
    s.map.sight sighting.1.1 sighting.1.2 p = .ok (some sighting.2) := by
  obtain ⟨place, inside, found⟩ := List.mem_filterMap.mp member
  obtain ⟨keypoint, joined, rfl⟩ := Option.map_eq_some_iff.mp found
  obtain ⟨seen, sighted⟩ := laid.sighted place inside p
  rw [sighted] at joined
  rw [sighted]
  exact congrArg Except.ok joined

theorem reprojection_visible [OrderedScalar α] (outcome : Except (Fault α) (ProjectionOutcome × Vec2 α × Vec2 α))
    (member : outcome ∈ s.reprojections) :
    ∃ seen stored, outcome = .ok (.visible, seen, stored) ∧ ((c.pixelNoise == 0) = true → SamePoint stored seen) := by
  obtain ⟨⟨l, id, p⟩, paired, there⟩ := List.mem_flatMap.mp member
  obtain ⟨o, observed, rfl⟩ := List.mem_map.mp there
  obtain ⟨known, _, position⟩ := landmark_paired c source s laid l id p paired
  obtain ⟨sighting, sighted, draws, recorded⟩ :=
    related_member _ _ _ (List.Forall₂.flip (laid.observed l known p position)) o observed
  have place : (o.vertex, o.frame) = sighting.1 := recorded.1
  have sight := sighting_true c source s laid p sighting sighted
  rw [← place] at sight recorded
  exact ⟨_, _, sighted_reprojects s l.id o p _ _ sight recorded, fun silent => no_noise source draws c.pixelNoise silent _⟩

theorem visibility_checked [OrderedScalar α] : s.observedPointsVisible = true := by
  rw [observedPointsVisible, List.all_eq_true]
  intro outcome member
  obtain ⟨seen, stored, rfl, _⟩ := reprojection_visible c source s laid outcome member
  rfl

end LaidOut

variable (formed : WellFormed c source s)

include formed

theorem depths_checked : s.depthsInRange c = true := by
  rw [depthsInRange, numbered, List.all_eq_true]
  rintro ⟨⟨id, p⟩, i⟩ member
  obtain ⟨l, there, _, position⟩ := truth_found c source s formed.toLaidOut i id p (List.mem_zipIdx_iff_getElem?.mp member)
  obtain ⟨low, high⟩ := formed.depths i l p there position
  rw [Bool.and_eq_true, decide_eq_true_eq, decide_eq_true_eq]
  exact ⟨low, high⟩

end Read

section Exact

variable (c : SceneConfig ℝ) (source : RandomSource ℝ) (s : Scene ℝ) (formed : WellFormed c source s)

theorem same_coordinates (p : Vec3 ℝ) : (p.toList == p.toList) = true := by
  have same : ∀ x : ℝ, (x == x) = true := fun x => decide_eq_true rfl
  change ((p.x == p.x) && ((p.y == p.y) && ((p.z == p.z) && true))) = true
  rw [same, same, same]
  rfl

include formed

theorem truth_checked : s.truthIsPosition = true := by
  have length : s.map.landmarks.length = s.truth.length := by
    have lists := congrArg List.length formed.truth
    rwa [Map.landmarkIds, List.length_map, List.length_map, eq_comm] at lists
  rw [truthIsPosition, Bool.and_eq_true, beq_iff_eq, List.all_eq_true]
  refine ⟨length, ?_⟩
  rintro ⟨l, id, p⟩ member
  obtain ⟨_, named, position⟩ := landmark_paired c source s formed.toLaidOut l id p member
  simp only [named, position, decide_true, Bool.true_and, same_coordinates]

theorem keypoints_checked (silent : c.pixelNoise = 0) : s.keypointsExact = true := by
  have none : (c.pixelNoise == 0) = true := decide_eq_true silent
  rw [keypointsExact, List.all_eq_true]
  intro outcome member
  obtain ⟨seen, stored, rfl, exact⟩ := reprojection_visible c source s formed.toLaidOut outcome member
  have same : stored = seen := by
    obtain ⟨first, second⟩ := exact none
    rw [same_reals] at first second
    cases stored
    cases seen
    exact congrArg₂ Vec2.mk first second
  have close : (stored - seen).norm < 1e-6 := by
    rw [same, plane_norm, plane_point_sub, sub_self, norm_zero]
    norm_num
  exact decide_eq_true close

-- A scene that is well formed passes the checks that a program can run on it.
theorem well_formed_checks :
    s.depthsInRange c = true ∧ s.truthIsPosition = true ∧ s.observedPointsVisible = true ∧
      (c.pixelNoise = 0 → s.keypointsExact = true) :=
  ⟨depths_checked c source s formed, truth_checked c source s formed, visibility_checked c source s formed.toLaidOut,
    keypoints_checked c source s formed⟩

end Exact

end LandmarkMap.Scene
