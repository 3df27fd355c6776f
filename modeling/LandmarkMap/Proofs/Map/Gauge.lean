import LandmarkMap.Proofs.Quality.TurnedRays
import LandmarkMap.Proofs.Triangulation.MovedSights
import LandmarkMap.Proofs.Triangulation.Recovery
import LandmarkMap.Map.Interpolation
import LandmarkMap.Map.Survey
import LandmarkMap.Quality.Evaluation

set_option autoImplicit false

namespace LandmarkMap

-- The same world, described from another global frame: nothing but the bases of the missions is
-- written anew.

noncomputable def Mission.regauge (t : Pose ℝ) (m : Mission ℝ) : Mission ℝ := { m with toGlobal := t * m.toGlobal }

noncomputable def PoseGraph.regauge (g : PoseGraph ℝ) (t : Pose ℝ) : PoseGraph ℝ :=
  { g with missions := g.missions.mapValues fun _ m => m.regauge t }

noncomputable def Map.regauge (map : Map ℝ) (t : Pose ℝ) : Map ℝ := { map with toPoseGraph := map.toPoseGraph.regauge t }

section Frames

variable (g : PoseGraph ℝ) (t : Pose ℝ)

theorem regauge_mission (id : MissionId) : (g.regauge t).mission id = (·.regauge t) <$> g.mission id := by
  rw [PoseGraph.mission, PoseGraph.mission, PoseGraph.regauge, Table.get_map_values]
  cases g.missions.get? id <;> rfl

theorem regauge_vertex (id : VertexId) : (g.regauge t).vertex id = g.vertex id := rfl

theorem regauge_base (id : MissionId) : (g.regauge t).missionToGlobal id = (t * ·) <$> g.missionToGlobal id := by
  rw [PoseGraph.missionToGlobal, PoseGraph.missionToGlobal, regauge_mission]
  cases g.mission id <;> rfl

variable (rigid : t.IsRigid) (holds : g.Holds Pose.IsRigid fun _ => True)

include rigid holds

theorem regauge_body (id : VertexId) : (g.regauge t).bodyToGlobal id = (t * ·) <$> g.bodyToGlobal id := by
  rw [PoseGraph.bodyToGlobal, PoseGraph.bodyToGlobal, regauge_vertex, map_bind]
  congr 1
  funext v
  rw [regauge_base]
  cases home : g.missionToGlobal v.mission with
  | error fault => rfl
  | ok own => exact congrArg Except.ok (pose_assoc t own v.state.pose rigid (rigid_base g _ holds _ own home))

theorem regauge_camera (id : VertexId) (frame : Nat) :
    (g.regauge t).cameraToGlobal id frame = (t * ·) <$> g.cameraToGlobal id frame := by
  rw [PoseGraph.cameraToGlobal, PoseGraph.cameraToGlobal, regauge_vertex, map_bind]
  congr 1
  funext v
  rw [regauge_mission, bind_map_left, map_bind]
  congr 1
  funext m
  rw [map_bind]
  congr 1
  funext mount
  rw [regauge_body g t rigid holds]
  cases found : g.bodyToGlobal id with
  | error fault => rfl
  | ok body =>
      exact congrArg Except.ok (pose_assoc t body mount.fromBody.inverse rigid (rigid_body g _ holds id body found))

theorem regauge_landmark (l : Landmark ℝ) : (g.regauge t).landmarkInGlobal l = t.apply <$> g.landmarkInGlobal l := by
  rw [PoseGraph.landmarkInGlobal, PoseGraph.landmarkInGlobal, regauge_base]
  cases l.position with
  | none => rfl
  | some p =>
      cases home : g.missionToGlobal l.mission with
      | error fault => rfl
      | ok own => exact congrArg Except.ok (product_apply t own p rigid (rigid_base g _ holds _ own home))

theorem regauge_sight (o : Observation) : sightOf? (g.regauge t) o = Option.map (·.moved t) <$> sightOf? g o := by
  rw [sightOf?, sightOf?, regauge_vertex, map_bind]
  congr 1
  funext v
  rw [regauge_mission, bind_map_left, map_bind]
  congr 1
  funext m
  rw [map_bind]
  congr 1
  funext f
  rw [map_bind]
  congr 1
  funext keypoint
  rw [map_bind]
  congr 1
  funext mount
  cases mount.camera.backProject? keypoint with
  | none => rfl
  | some ray =>
      simp only [regauge_camera g t rigid holds]
      cases located : g.cameraToGlobal o.vertex o.frame with
      | error fault => rfl
      | ok camera =>
          have turned := rotate_product t.rotation camera.rotation rigid (rigid_camera g _ holds _ _ camera located) ray
          have moved : (⟨(t * camera).rotation.rotate ray, (t * camera).position⟩ : Sight ℝ) =
              Sight.moved t ⟨camera.rotation.rotate ray, camera.position⟩ := by
            rw [product_position, Sight.moved, ← turned]
            rfl
          exact congrArg (Except.ok ∘ some) moved

theorem regauge_sights (l : Landmark ℝ) : sightsOf (g.regauge t) l = List.map (·.moved t) <$> sightsOf g l := by
  have each : sightOf? (g.regauge t) = fun o => Option.map (·.moved t) <$> sightOf? g o := by
    funext o
    exact regauge_sight g t rigid holds o
  rw [sightsOf, sightsOf, each, map_m_map, ← comp_map, ← comp_map]
  congr 1
  funext found
  rw [Function.comp_apply, Function.comp_apply, List.filterMap_map, List.map_filterMap]
  rfl

theorem regauge_ray (id : LandmarkId) (p : Vec3 ℝ) (o : Observation) :
    QualityMetrics.rayOf (g.regauge t) id (t.apply p) o = (·.turned t.rotation) <$> QualityMetrics.rayOf g id p o := by
  rw [QualityMetrics.rayOf, QualityMetrics.rayOf, map_bind]
  congr 1
  funext _
  rw [regauge_camera g t rigid holds]
  cases located : g.cameraToGlobal o.vertex o.frame with
  | error fault => rfl
  | ok camera =>
      have moved : (⟨(t * camera).position - t.apply p, ((t * camera).applyInverse (t.apply p)).z⟩ : ObserverRay ℝ) =
          ObserverRay.turned t.rotation ⟨camera.position - p, (camera.applyInverse p).z⟩ := by
        rw [product_position, apply_difference t _ _ rigid,
          product_back t camera _ rigid (rigid_camera g _ holds _ _ camera located), apply_back t p rigid]
        rfl
      exact congrArg Except.ok moved

theorem regauge_metrics (l : Landmark ℝ) : QualityMetrics.compute (g.regauge t) l = QualityMetrics.compute g l := by
  rw [QualityMetrics.compute, QualityMetrics.compute]
  congr 1
  funext _
  congr 1
  funext _
  rw [regauge_landmark g t rigid holds, bind_map_left]
  congr 1
  funext p
  simp only [regauge_ray g t rigid holds, map_m_map, bind_map_left, turned_metrics t.rotation rigid]

theorem regauge_triangulation [Spectral ℝ] (exact : ExactSvd) (l : Landmark ℝ) :
    triangulationOf (g.regauge t) l = (·.moved t) <$> triangulationOf g l := by
  rw [triangulation_sights, triangulation_sights, regauge_sights g t rigid holds, ← comp_map, ← comp_map]
  congr 1
  funext sights
  exact moved_sights t rigid exact sights

theorem regauge_settle (l : Landmark ℝ) (result : TriangulationResult ℝ) :
    settle (g.regauge t) l (result.moved t) = (fun (m, r) => (m, r.moved t)) <$> settle g l result := by
  cases result with
  | successful p =>
      rw [TriangulationResult.moved, settle, settle, regauge_base]
      cases home : g.missionToGlobal l.mission with
      | error fault => rfl
      | ok own =>
          have back : (t * own).applyInverse (t.apply p) = own.applyInverse p := by
            rw [product_back t own _ rigid (rigid_base g _ holds _ own home), apply_back t p rigid]
          exact congrArg (fun q => Except.ok (l.place q, TriangulationResult.successful (t.apply p))) back
  | tooFewMeasurements => rfl
  | unobservable => rfl

theorem regauge_retriangulate [Spectral ℝ] (exact : ExactSvd) (l : Landmark ℝ) :
    retriangulate (g.regauge t) l = (fun (m, r) => (m, r.moved t)) <$> retriangulate g l := by
  rw [retriangulate_settles, retriangulate_settles, regauge_triangulation g t rigid holds exact, bind_map_left, map_bind]
  congr 1
  funext result
  exact regauge_settle g t rigid holds l result

end Frames

section Maps

variable (map : Map ℝ) (t : Pose ℝ) (rigid : t.IsRigid) (holds : map.toPoseGraph.Holds Pose.IsRigid fun _ => True)

include rigid holds

theorem regauge_depth (center : Vec3 ℝ) (id : LandmarkId) :
    (map.regauge t).squaredDepth? (t.apply center) id = map.squaredDepth? center id := by
  have same : (map.regauge t).landmark id = map.landmark id := rfl
  rw [Map.squaredDepth?, Map.squaredDepth?, same]
  by_cases valid : id.isValid = false
  · rw [if_pos valid, if_pos valid]
  · rw [if_neg valid, if_neg valid]
    congr 1
    funext l
    by_cases scenery : l.quality ≠ .good
    · rw [if_pos scenery, if_pos scenery]
    · rw [if_neg scenery, if_neg scenery]
      change ((map.toPoseGraph.regauge t).landmarkInGlobal l >>= _) = _
      rw [regauge_landmark map.toPoseGraph t rigid holds, bind_map_left]
      congr 1
      funext p
      rw [apply_difference t _ _ rigid, Vec3.normSq, rotate_dot _ rigid]
      rfl

theorem regauge_median (vertex : VertexId) (frame : Nat) :
    (map.regauge t).medianDepth? vertex frame = map.medianDepth? vertex frame := by
  rw [Map.medianDepth?, Map.medianDepth?]
  change ((map.toPoseGraph.regauge t).cameraToGlobal vertex frame >>= _) = _
  rw [regauge_camera map.toPoseGraph t rigid holds, bind_map_left]
  congr 1
  funext camera
  simp only [product_position, regauge_depth map t rigid holds]
  rfl

theorem regauge_interpolate (id : MissionId) (times : List Timestamp) :
    (map.regauge t).interpolate? id times = Option.map (List.map (t * ·)) <$> map.interpolate? id times := by
  rw [Map.interpolate?, Map.interpolate?, map_bind]
  congr 1
  funext _
  change ((map.toPoseGraph.regauge t).mission id >>= _) = _
  rw [regauge_mission, bind_map_left, map_bind]
  cases stored : map.mission id with
  | error fault => rfl
  | ok m =>
      have base := holds.bases _ _ ((mission_ok _ _ _).mp stored)
      have based : ((m.regauge t).toGlobal * ·) = (t * ·) ∘ (m.toGlobal * ·) := by
        funext pose
        exact pose_assoc t m.toGlobal pose rigid base
      have samples : (map.regauge t).samples (m.regauge t) = map.samples m := rfl
      rw [ok_bind, ok_bind, samples, map_bind]
      congr 1
      funext samples
      cases samples.head? with
      | none => rfl
      | some first =>
          cases samples.getLast? with
          | none => rfl
          | some last =>
              simp only [map_bind, based]
              congr 1
              funext poses
              cases poses with
              | none => rfl
              | some poses => exact congrArg (Except.ok ∘ some) (List.map_map).symm

end Maps

-- What the choice of the global frame leaves as it is, and what it moves along.
structure Map.GaugeFree [Spectral ℝ] (map : Map ℝ) (t : Pose ℝ) : Prop where
  metrics : ∀ l, QualityMetrics.compute (map.regauge t).toPoseGraph l = QualityMetrics.compute map.toPoseGraph l
  labels : ∀ c l, evaluateQuality (map.regauge t).toPoseGraph c l = evaluateQuality map.toPoseGraph c l
  triangulations : ExactSvd → ∀ l, retriangulate (map.regauge t).toPoseGraph l =
    (fun (m, result) => (m, result.moved t)) <$> retriangulate map.toPoseGraph l
  depths : ∀ vertex frame, (map.regauge t).medianDepth? vertex frame = map.medianDepth? vertex frame
  bodies : ∀ id times, (map.regauge t).interpolate? id times =
    Option.map (List.map (t * ·)) <$> map.interpolate? id times

theorem gauge_invariance [Spectral ℝ] (map : Map ℝ) (holds : map.toPoseGraph.Holds Pose.IsRigid fun _ => True)
    (t : Pose ℝ) (rigid : t.IsRigid) : map.GaugeFree t := by
  constructor
  · exact regauge_metrics map.toPoseGraph t rigid holds
  · intro c l
    have metrics := regauge_metrics map.toPoseGraph t rigid holds l
    exact congrArg (fun found => found >>= fun m => pure (m.classify c)) metrics
  · exact fun exact => regauge_retriangulate map.toPoseGraph t rigid holds exact
  · exact regauge_median map t rigid holds
  · exact regauge_interpolate map t rigid holds

noncomputable def tilted : Pose ℝ := ⟨⟨3 / 5, 0, 0, 4 / 5⟩, ⟨1, 2, 3⟩⟩

theorem tilted_rigid : tilted.IsRigid := by
  change tilted.rotation.IsUnit
  rw [unit_dot, quaternion_dot]
  norm_num [tilted]

-- The world of the two missions moves with its bodies and what is found in it, and a landmark stays with its metrics
-- where it is in its mission.
theorem turned_missions_gauge_free :
    ∃ (_ : Spectral ℝ) (metrics : QualityMetrics ℝ), ExactSvd ∧
      turnedMap.toPoseGraph.Holds Pose.IsRigid (fun _ => True) ∧ tilted.IsRigid ∧ turnedMap.GaugeFree tilted ∧
      (turnedMap.regauge tilted).missionToGlobal (Id.ofNat 1) ≠ turnedMap.missionToGlobal (Id.ofNat 1) ∧
      QualityMetrics.compute (turnedMap.regauge tilted).toPoseGraph turnedLandmark = .ok metrics ∧
      retriangulate (turnedMap.regauge tilted).toPoseGraph turnedLandmark =
        .ok (turnedLandmark.place ⟨2, 3, 5⟩, .successful (tilted.apply ⟨6, 2, 3⟩)) ∧
      (turnedMap.regauge tilted).interpolate? (Id.ofNat 1) [⟨0⟩] = .ok (some [tilted * ⟨thirdTurn, ⟨2, 2, 3⟩⟩]) := by
  let _ : Spectral ℝ := eigenSpectral
  have ideal := run_holds _ _ _ turnedMap turned_brings rfl
  have holds := holds_weaken _ _ (fun _ => True) (fun _ _ => trivial) _ ideal
  have free := gauge_invariance turnedMap holds tilted tilted_rigid
  have settled := turned_settled
    (sights_recover eigen_spectral_exact _ ideal turnedLandmark _ rfl _ (turned_global ▸ turned_sees))
  have body : (⟨thirdTurn, ⟨1, 0, 0⟩⟩ : Pose ℝ) * Pose.atPosition ⟨2, 3, 1⟩ = ⟨thirdTurn, ⟨2, 2, 3⟩⟩ := by
    rw [pose_product, Pose.atPosition, turn_forth, add_coordinates]
    norm_num [quaternion_product, thirdTurn, Quaternion.identity]
  have located : turnedMap.interpolate? (Id.ofNat 1) [⟨0⟩] = .ok (some [⟨thirdTurn, ⟨2, 2, 3⟩⟩]) := by
    have stored : turnedMap.mission (Id.ofNat 1) =
        .ok ⟨Id.ofNat 1, ⟨thirdTurn, ⟨1, 0, 0⟩⟩, offsetRig, firstObserver, [firstObserver]⟩ := rfl
    have alone : turnedMap.samples ⟨Id.ofNat 1, ⟨thirdTurn, ⟨1, 0, 0⟩⟩, offsetRig, firstObserver, [firstObserver]⟩ =
        .ok [⟨⟨0⟩, Pose.atPosition ⟨2, 3, 1⟩⟩] := congrArg Except.ok (List.mergeSort_singleton _)
    rw [Map.interpolate?, require_bind _ _ _ (List.cons_ne_nil _ _), stored, ok_bind, alone, ← body]
    rfl
  refine ⟨eigenSpectral, _, eigen_spectral_exact, holds, tilted_rigid, free, ?based,
    (free.metrics turnedLandmark).trans rfl, ?found, ?body⟩
  case based =>
    intro same
    have moved : (tilted * ⟨thirdTurn, ⟨1, 0, 0⟩⟩).position.x = (1 : ℝ) :=
      congrArg (fun pose : Pose ℝ => pose.position.x) (Except.ok.inj same)
    rw [product_position] at moved
    norm_num [tilted, Pose.apply, Quaternion.rotate, Quaternion.imag, Vec3.cross, Vec3.scale, add_coordinates] at moved
  case found =>
    rw [free.triangulations eigen_spectral_exact, settled]
    rfl
  case body =>
    rw [free.bodies, located]
    rfl

end LandmarkMap
