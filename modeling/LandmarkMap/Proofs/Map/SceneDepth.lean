import Mathlib.Data.List.Perm.Basic
import LandmarkMap.Map.Survey
import LandmarkMap.Proofs.Map.PassFaults
import LandmarkMap.Proofs.Quality.Reference
import LandmarkMap.Proofs.Quality.Spread

set_option autoImplicit false

namespace LandmarkMap

-- The element that so many others precede in ascending order.
def RankIn (xs : List ℝ) (k : Nat) (x : ℝ) : Prop :=
  ∃ sorted : List ℝ, sorted.Perm xs ∧ sorted.Pairwise (· ≤ ·) ∧ sorted[k]? = some x

section Ranks

variable (xs ys : List ℝ) (k : Nat) (x : ℝ)

theorem rank_map (f : ℝ → ℝ) (monotone : Monotone f) (ranked : RankIn xs k x) : RankIn (xs.map f) k (f x) := by
  obtain ⟨sorted, same, ascending, found⟩ := ranked
  refine ⟨sorted.map f, same.map f, ?_, by rw [List.getElem?_map, found]; rfl⟩
  rw [List.pairwise_map]
  exact ascending.imp fun below => monotone below

theorem rank_below (ranked : RankIn xs k x) : k < xs.countP (· ≤ x) := by
  obtain ⟨sorted, same, ascending, found⟩ := ranked
  obtain ⟨inside, rfl⟩ := List.getElem?_eq_some_iff.mp found
  have below : (sorted.take (k + 1)).countP (· ≤ sorted[k]) = (sorted.take (k + 1)).length := by
    rw [List.countP_eq_length]
    intro y member
    obtain ⟨i, before, rfl⟩ := List.mem_take_iff_getElem.mp member
    rcases Nat.lt_or_eq_of_le (Nat.lt_succ_iff.mp (Nat.lt_of_lt_of_le before (Nat.min_le_left _ _))) with earlier | rfl
    · exact decide_eq_true (List.pairwise_iff_getElem.mp ascending i k _ inside earlier)
    · exact decide_eq_true le_rfl
  calc k < (sorted.take (k + 1)).length := by rw [List.length_take]; omega
    _ = (sorted.take (k + 1)).countP (· ≤ sorted[k]) := below.symm
    _ ≤ sorted.countP (· ≤ sorted[k]) := (List.take_sublist _ _).countP_le
    _ = xs.countP (· ≤ sorted[k]) := same.countP_eq _

theorem rank_above (ranked : RankIn xs k x) : xs.length ≤ k + xs.countP (x ≤ ·) := by
  obtain ⟨sorted, same, ascending, found⟩ := ranked
  obtain ⟨inside, rfl⟩ := List.getElem?_eq_some_iff.mp found
  have above : (sorted.drop k).countP (sorted[k] ≤ ·) = (sorted.drop k).length := by
    rw [List.countP_eq_length]
    intro y member
    obtain ⟨i, after, rfl⟩ := List.mem_drop_iff_getElem.mp member
    rcases Nat.eq_zero_or_pos i with rfl | later
    · exact decide_eq_true le_rfl
    · exact decide_eq_true (List.pairwise_iff_getElem.mp ascending k (k + i) inside _ (by omega))
  calc xs.length = k + (sorted.drop k).length := by rw [← same.length_eq, List.length_drop]; omega
    _ = k + (sorted.drop k).countP (sorted[k] ≤ ·) := by rw [above]
    _ ≤ k + sorted.countP (sorted[k] ≤ ·) := Nat.add_le_add_left (List.drop_sublist _ _).countP_le k
    _ = k + xs.countP (sorted[k] ≤ ·) := by rw [same.countP_eq]

theorem sorted_pairwise : (xs.mergeSort Scalar.totalLe).Pairwise (· ≤ ·) := by
  have ascending : (xs.mergeSort Scalar.totalLe).Pairwise fun a b => decide (a ≤ b) = true :=
    List.pairwise_mergeSort (fun a b c => by simpa using le_trans) (fun a b => by simpa using le_total a b) xs
  exact ascending.imp fun below => of_decide_eq_true below

theorem upper_median_none : Map.upperMedian? xs = none ↔ xs = [] := by
  rw [Map.upperMedian?, List.getElem?_eq_none_iff, List.length_mergeSort, ← List.length_eq_zero_iff]
  omega

theorem upper_median_rank (found : Map.upperMedian? xs = some x) : RankIn xs (xs.length / 2) x :=
  ⟨_, List.mergeSort_perm _ _, sorted_pairwise xs, found⟩

theorem upper_median_perm (same : xs.Perm ys) : Map.upperMedian? xs = Map.upperMedian? ys := by
  have sorted : xs.mergeSort Scalar.totalLe = ys.mergeSort Scalar.totalLe :=
    List.Perm.eq_of_pairwise (fun _ _ _ _ => le_antisymm) (sorted_pairwise xs) (sorted_pairwise ys)
      ((List.mergeSort_perm _ _).trans (same.trans (List.mergeSort_perm _ _).symm))
  rw [Map.upperMedian?, Map.upperMedian?, sorted, same.length_eq]

end Ranks

-- How far from a point the landmark of a keypoint is, none where it is not scenery.
inductive Map.Depth (map : Map ℝ) (center : Vec3 ℝ) : LandmarkId → Option ℝ → Prop where
  | unknown : Depth map center Id.invalid none
  | unfit (l : Landmark ℝ) (member : l ∈ map.landmarks) (label : l.quality ≠ .good) : Depth map center l.id none
  | good (l : Landmark ℝ) (member : l ∈ map.landmarks) (label : l.quality = .good) (p : Vec3 ℝ)
      (placed : l.position = some p) (base : Pose ℝ) (home : map.missionToGlobal l.mission = .ok base) :
      Depth map center l.id (some (dist (base.apply p).point center.point))

section Depths

variable (map : Map ℝ) (consistent : map.Consistent) (center : Vec3 ℝ) (id : LandmarkId)

include consistent

theorem landmark_stored (l : Landmark ℝ) (found : map.landmark id = .ok l) : l ∈ map.landmarks ∧ l.id = id := by
  obtain ⟨i, slot, read⟩ := (bind_ok _ _ _).mp found
  obtain ⟨m, there, same⟩ := indexed_landmark map id i consistent ((slot_ok map id i).mp slot).2
  cases there.symm.trans ((fetch_ok _ _ _).mp read)
  exact ⟨List.mem_of_getElem? there, same⟩

theorem squared_depth (square : Option ℝ) (measured : map.squaredDepth? center id = .ok square) :
    map.Depth center id (square.map Real.sqrt) := by
  rw [Map.squaredDepth?] at measured
  by_cases valid : id.isValid = true
  · rw [valid, if_neg Bool.true_eq_false_eq_False] at measured
    obtain ⟨l, found, labelled⟩ := (bind_ok _ _ _).mp measured
    obtain ⟨member, rfl⟩ := landmark_stored map consistent id l found
    by_cases label : l.quality = .good
    · rw [if_neg (not_not_intro label)] at labelled
      obtain ⟨q, located, squared⟩ := (bind_ok _ _ _).mp labelled
      obtain ⟨p, base, placed, home, rfl⟩ := (global_position_ok _ _ _).mp located
      cases (pure_ok _ _).mp squared
      have distance : Real.sqrt (base.apply p - center).normSq = dist (base.apply p).point center.point :=
        (point_distance _ _).symm
      rw [Option.map_some, distance]
      exact .good l member label p placed base home
    · rw [if_pos label] at labelled
      cases (pure_ok _ _).mp labelled
      exact .unfit l member label
  · have none : id = Id.invalid := by_contra fun other => valid ((id_valid id).mpr other)
    rw [if_pos (Bool.eq_false_iff.mpr valid)] at measured
    cases (pure_ok _ _).mp measured
    exact none ▸ .unknown

theorem depth_unique (d e : Option ℝ) (first : map.Depth center id d) (second : map.Depth center id e) : d = e := by
  have known : ∀ l ∈ map.landmarks, l.id ≠ Id.invalid := fun l member => (id_valid l.id).mp (consistent.valid l member)
  cases first with
  | unknown =>
      generalize none : Id.invalid = id at second
      cases second with
      | unknown => rfl
      | unfit m other _ => exact absurd none.symm (known m other)
      | good m other _ _ _ _ _ => exact absurd none.symm (known m other)
  | unfit l member label =>
      generalize named : l.id = id at second
      cases second with
      | unknown => rfl
      | unfit _ _ _ => rfl
      | good m other good _ _ _ _ =>
          cases List.inj_on_of_nodup_map consistent.distinct member other named
          exact absurd good label
  | good l member label p placed base home =>
      generalize named : l.id = id at second
      cases second with
      | unknown => exact absurd named (known l member)
      | unfit m other unfit =>
          cases List.inj_on_of_nodup_map consistent.distinct member other named
          exact absurd label unfit
      | good m other _ q placed' base' home' =>
          cases List.inj_on_of_nodup_map consistent.distinct member other named
          cases placed.symm.trans placed'
          cases home.symm.trans home'
          rfl

theorem squared_depth_never_faults (linked : map.Linked)
    (placed : ∀ l ∈ map.landmarks, l.quality = .good → l.isTriangulated = true) (o : Observation)
    (shown : map.shown? o = some id) : ¬ Faults (map.squaredDepth? center id) := by
  rw [Map.squaredDepth?]
  cases valid : id.isValid with
  | false => exact ok_never_faults none
  | true =>
      obtain ⟨l, member, rfl, _⟩ := linked.claimed o id valid shown
      rw [if_neg Bool.true_eq_false_eq_False, found_landmark map l consistent member, ok_bind]
      by_cases label : l.quality = .good
      · rw [if_neg (not_not_intro label), bind_faults, landmark_in_global_faults map consistent l member,
          placed l member label]
        rintro (untriangulated | ⟨_, _, later⟩)
        · cases untriangulated
        · exact ok_never_faults _ later
      · rw [if_pos label]
        exact ok_never_faults none

end Depths

def Landmark.unobserved (l : Landmark ℝ) : Landmark ℝ := { l with observations := [] }

-- The keypoints of a frame stand in another order, and the observations may be renumbered.
structure Map.Rearranged (map other : Map ℝ) (vertex : VertexId) (frame : Nat) : Prop where
  graph : ∃ g, other.toPoseGraph = { map.toPoseGraph with
      vertices := map.vertices.modify vertex fun v => { v with frames := v.frames.set frame g } } ∧
    ∀ v f, map.vertices.get? vertex = some v → v.frames[frame]? = some f → g.landmarks.Perm f.landmarks
  index : other.index = map.index
  landmarks : other.landmarks.map Landmark.unobserved = map.landmarks.map Landmark.unobserved

section Rearranged

variable (map other : Map ℝ) (vertex : VertexId) (frame : Nat) (rearranged : map.Rearranged other vertex frame)

theorem unobserved_depth (center : Vec3 ℝ) (id : LandmarkId) :
    map.squaredDepth? center id =
      if id.isValid = false then .ok none
      else do
        let l ← fetch (map.landmarks.map Landmark.unobserved) (← map.slot id)
        if l.quality ≠ .good then return none
        else return some ((← map.landmarkInGlobal l) - center).normSq := by
  rw [Map.squaredDepth?, Map.landmark]
  split
  · rfl
  · rw [bind_assoc]
    congr 1
    funext i
    rw [fetch, fetch, List.getElem?_map]
    cases map.landmarks[i]? with
    | none => rfl
    | some l => rfl

include rearranged

theorem rearranged_depth (center : Vec3 ℝ) (id : LandmarkId) : other.squaredDepth? center id = map.squaredDepth? center id := by
  obtain ⟨⟨g, graph, _⟩, index, landmarks⟩ := rearranged
  rw [unobserved_depth, unobserved_depth, landmarks, Map.slot, Map.slot, index, graph]
  rfl

end Rearranged

-- A frame together with what its depths are measured by.
structure Map.Measures (map : Map ℝ) (vertex : VertexId) (frame : Nat) (v : Vertex ℝ) (f : Frame ℝ) (camera : Pose ℝ)
    (squares : List (Option ℝ)) : Prop where
  stored : map.vertices.get? vertex = some v
  framed : v.frames[frame]? = some f
  standing : map.cameraToGlobal vertex frame = .ok camera
  squared : f.landmarks.mapM (map.squaredDepth? camera.position) = .ok squares

theorem measured_median (map : Map ℝ) (vertex : VertexId) (frame : Nat) (v : Vertex ℝ) (f : Frame ℝ) (camera : Pose ℝ)
    (squares : List (Option ℝ)) (measures : map.Measures vertex frame v f camera squares) :
    map.medianDepth? vertex frame = .ok ((Map.upperMedian? (squares.filterMap id)).map Real.sqrt) := by
  have ids : map.frameLandmarks vertex frame = .ok f.landmarks := by
    rw [PoseGraph.frameLandmarks, (vertex_ok _ _ _).mpr measures.stored, ok_bind, (frame_ok _ _ _).mpr measures.framed]
    rfl
  rw [Map.medianDepth?, measures.standing, ok_bind, ids, ok_bind, measures.squared]
  rfl

theorem frame_measured (map : Map ℝ) (consistent : map.Consistent) (linked : map.Linked)
    (placed : ∀ l ∈ map.landmarks, l.quality = .good → l.isTriangulated = true) (vertex : VertexId) (frame : Nat)
    (v : Vertex ℝ) (f : Frame ℝ) (stored : map.vertices.get? vertex = some v) (framed : v.frames[frame]? = some f) :
    ∃ camera squares, map.Measures vertex frame v f camera squares := by
  obtain ⟨m, mount, home, mounted⟩ := frame_camera map.toPoseGraph consistent.graph vertex v stored frame f framed
  have standing := camera_located map.toPoseGraph vertex frame v m mount ((vertex_ok _ _ _).mpr stored) home mounted
  set camera := m.toGlobal * v.state.pose * mount.fromBody.inverse
  have safe : ¬ Faults (f.landmarks.mapM (map.squaredDepth? camera.position)) := by
    rw [map_m_faults]
    rintro ⟨id, member, broken⟩
    obtain ⟨k, listed⟩ := List.mem_iff_getElem?.mp member
    have shown : map.shown? ⟨vertex, frame, k⟩ = some id := (shown_found _ _ _).mpr ⟨v, f, stored, framed, listed⟩
    exact squared_depth_never_faults map consistent camera.position id linked placed _ shown broken
  obtain ⟨squares, squared⟩ := faultless_has_value _ safe
  exact ⟨camera, squares, stored, framed, standing, squared⟩

theorem rearranged_measured (map other : Map ℝ) (vertex : VertexId) (frame : Nat) (v : Vertex ℝ) (f : Frame ℝ)
    (camera : Pose ℝ) (squares : List (Option ℝ)) (rearranged : map.Rearranged other vertex frame)
    (measures : map.Measures vertex frame v f camera squares) :
    ∃ w g squares', other.Measures vertex frame w g camera squares' ∧ squares'.Perm squares := by
  obtain ⟨g, graph, order⟩ := rearranged.graph
  have depths : other.squaredDepth? camera.position = map.squaredDepth? camera.position :=
    funext fun id => rearranged_depth map other vertex frame rearranged camera.position id
  obtain ⟨squares', squared, same⟩ := List.perm_comp_forall₂ (order v f measures.stored measures.framed)
    ((map_m_ok _ _ _).mp measures.squared)
  have stored : other.vertices.get? vertex = some { v with frames := v.frames.set frame g } := by
    rw [graph]
    simp only [Table.get_modify_self, measures.stored, Option.map_some]
  have inside := (List.getElem?_eq_some_iff.mp measures.framed).1
  have standing : other.cameraToGlobal vertex frame = .ok camera := by
    obtain ⟨u, found, home⟩ := (bind_ok _ _ _).mp measures.standing
    obtain ⟨m, home, mounted⟩ := (bind_ok _ _ _).mp home
    obtain ⟨mount, mounted, body⟩ := (bind_ok _ _ _).mp mounted
    cases measures.stored.symm.trans ((vertex_ok _ _ _).mp found)
    have before := camera_located map.toPoseGraph vertex frame v m mount found home mounted
    rw [← measures.standing, before]
    refine camera_located other.toPoseGraph vertex frame { v with frames := v.frames.set frame g } m mount
      ((vertex_ok _ _ _).mpr stored) ?_ mounted
    rw [graph]
    exact home
  refine ⟨_, g, squares', ⟨stored, ?_, standing, ?_⟩, same⟩
  · simp [inside]
  · rw [depths]
    exact (map_m_ok _ _ _).mpr squared

-- The median of some depths: none of none, else one of them with half of the others on each side.
structure Map.MedianOf (map : Map ℝ) (vertex : VertexId) (frame : Nat) (depths : List ℝ) : Prop where
  infinite : map.medianDepth? vertex frame = .ok none ↔ depths = []
  ranked : depths ≠ [] → ∃ median, map.medianDepth? vertex frame = .ok (some median) ∧
    RankIn depths (depths.length / 2) median ∧ depths.length < 2 * depths.countP (· ≤ median) ∧
    depths.length ≤ 2 * depths.countP (median ≤ ·)
  unordered : ∀ other, map.Rearranged other vertex frame → other.medianDepth? vertex frame = map.medianDepth? vertex frame

theorem measured_median_of (map : Map ℝ) (vertex : VertexId) (frame : Nat) (v : Vertex ℝ) (f : Frame ℝ) (camera : Pose ℝ)
    (squares : List (Option ℝ)) (measures : map.Measures vertex frame v f camera squares) :
    map.MedianOf vertex frame ((squares.map (Option.map Real.sqrt)).filterMap id) := by
  have median := measured_median map vertex frame v f camera squares measures
  have roots : (squares.map (Option.map Real.sqrt)).filterMap id = (squares.filterMap id).map Real.sqrt := by
    rw [List.filterMap_map, List.map_filterMap]
    rfl
  rw [roots]
  refine ⟨?_, ?_, ?_⟩
  · rw [median, Except.ok.injEq, Option.map_eq_none_iff, upper_median_none, List.map_eq_nil_iff]
  · intro nonempty
    obtain ⟨square, found⟩ : ∃ square, Map.upperMedian? (squares.filterMap id) = some square := by
      rw [← Option.ne_none_iff_exists', Ne, upper_median_none]
      exact fun none => nonempty (by rw [none]; rfl)
    have ranked := rank_map _ _ _ Real.sqrt (fun _ _ => Real.sqrt_le_sqrt) (upper_median_rank _ square found)
    rw [← List.length_map (f := Real.sqrt)] at ranked
    have below := rank_below _ _ _ ranked
    have above := rank_above _ _ _ ranked
    exact ⟨Real.sqrt square, by rw [median, found]; rfl, ranked, by omega, by omega⟩
  · intro other rearranged
    obtain ⟨w, g, squares', measures', same⟩ :=
      rearranged_measured map other vertex frame v f camera squares rearranged measures
    rw [median, measured_median other vertex frame w g camera squares' measures',
      upper_median_perm _ _ (same.filterMap id)]

theorem scene_depth_median [Spectral ℝ] (operations : List (Operation ℝ)) (map : Map ℝ)
    (unlinked : ∀ operation ∈ operations, operation.Unlinked)
    (done : Operation.run operations Map.empty = .ok map)
    (placed : ∀ l ∈ map.landmarks, l.quality = .good → l.isTriangulated = true) (vertex : VertexId) (frame : Nat)
    (v : Vertex ℝ) (f : Frame ℝ) (stored : map.vertices.get? vertex = some v) (framed : v.frames[frame]? = some f) :
    ∃ camera depths, map.cameraToGlobal vertex frame = .ok camera ∧
      List.Forall₂ (map.Depth camera.position) f.landmarks depths ∧
      map.MedianOf vertex frame (depths.filterMap id) := by
  obtain ⟨consistent, linked⟩ := run_linked operations map unlinked done
  obtain ⟨camera, squares, measures⟩ := frame_measured map consistent linked placed vertex frame v f stored framed
  refine ⟨camera, squares.map (Option.map Real.sqrt), measures.standing, ?_,
    measured_median_of map vertex frame v f camera squares measures⟩
  rw [List.forall₂_map_right_iff]
  exact ((map_m_ok _ _ _).mp measures.squared).imp fun id square measured =>
    squared_depth map consistent camera.position id square measured

-- One observer sees the landmark from a metre away, and one keypoint more shows nothing.
noncomputable def gradedScene : List (Operation ℝ) :=
  facedFromBothSides ++
    [.addKeypoint firstObserver 0 ⟨1, 1⟩ Id.invalid, .pass (.setQuality (Id.ofNat 5) .good)]

noncomputable def gradedMap : Map ℝ := (@Operation.run ℝ _ eigenSpectral gradedScene Map.empty).toOption.getD Map.empty

theorem graded_scene_depth :
    @Operation.run ℝ _ eigenSpectral gradedScene Map.empty = .ok gradedMap ∧
      gradedMap.frameLandmarks firstObserver 0 = .ok [Id.ofNat 5, Id.invalid] ∧
      gradedMap.MedianOf firstObserver 0 [1] := by
  let _ : Spectral ℝ := eigenSpectral
  have reached : Operation.run gradedScene Map.empty = .ok gradedMap := rfl
  have unlinked : ∀ operation ∈ gradedScene, operation.Unlinked := by
    simp [gradedScene, facedFromBothSides, Operation.Unlinked, watchingVertex]
  have single : gradedMap.landmarks = [facedLandmark.label .good] := rfl
  have placed : ∀ l ∈ gradedMap.landmarks, l.quality = .good → l.isTriangulated = true := by
    simp [single, facedLandmark, Landmark.label, Landmark.isTriangulated]
  obtain ⟨camera, depths, standing, each, median⟩ :=
    scene_depth_median gradedScene gradedMap unlinked reached placed firstObserver 0 _ _ rfl rfl
  have consistent := run_consistent gradedScene gradedMap reached
  have offset : (⟨0, 0, 0⟩ : Vec3 ℝ) - ⟨0, 0, 1⟩ = ⟨0, 0, -1⟩ := by norm_num [sub_coordinates]
  have behind : camera = Pose.atPosition ⟨0, 0, -1⟩ := by
    have located := (mounted_camera ⟨0, 0, 0⟩).symm.trans (Except.ok.inj standing)
    rw [← located, offset]
  have home : (Pose.identity : Pose ℝ).apply ⟨0, 0, 0⟩ = ⟨0, 0, 0⟩ := by
    change (Pose.atPosition Vec3.zero).apply _ = _
    rw [at_position_apply]
    simp [Vec3.zero, add_coordinates]
  have metre : dist (Pose.identity.apply ⟨0, 0, 0⟩).point camera.position.point = 1 := by
    rw [home, behind, dist_comm, Pose.atPosition, axis_distance, abs_neg, abs_one]
  have near : gradedMap.Depth camera.position (Id.ofNat 5) (some 1) :=
    metre ▸ .good (facedLandmark.label .good) (List.mem_singleton.mpr rfl) rfl ⟨0, 0, 0⟩ rfl Pose.identity rfl
  change List.Forall₂ _ [Id.ofNat 5, Id.invalid] depths at each
  obtain ⟨d, others, first, tail, rfl⟩ := List.forall₂_cons_left_iff.mp each
  obtain ⟨e, rest, second, last, rfl⟩ := List.forall₂_cons_left_iff.mp tail
  cases List.forall₂_nil_left_iff.mp last
  cases depth_unique gradedMap consistent _ _ _ _ first near
  cases depth_unique gradedMap consistent _ _ _ _ second .unknown
  exact ⟨reached, rfl, median⟩

end LandmarkMap
