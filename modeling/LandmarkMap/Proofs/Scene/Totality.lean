import LandmarkMap.Proofs.Scene.Observing

set_option autoImplicit false

namespace LandmarkMap

variable {α : Type} [Scalar α]

namespace Scene

variable (c : SceneConfig α) (source : RandomSource α)

-- What is left to do once the vertices are placed.
def plant (rig : Rig α) (d : Draft α) : Except (Fault α) (Scene α) := do
  let count ← landmarkCount c
  let (d, truth) ← addLandmarks c source home rig count 0 d
  return ⟨d.map, truth⟩

-- What is left to do once there is a rig.
def furnish (rig : Rig α) : Except (Fault α) (Scene α) := do
  let mission ← Mission.create home Pose.identity rig
  plant c source rig (← addVertices c home (← Draft.update ⟨Map.empty, 0⟩ (Map.addMission mission)))

theorem build_parts :
    build c source =
      match c.validate with
      | .error cause => .error (.error cause)
      | .ok () => rig c >>= fun rig => (furnish c source rig).mapError Failure.fault := by
  rw [build]
  cases c.validate with
  | error cause => rfl
  | ok checked =>
      simp only [furnish, plant, map_error_bind]
      rfl

-- All that is listed has room.
structure Roomy : Prop where
  cameras : c.cameras * 56 ≤ Word.listBytes
  vertices : c.vertices * 64 ≤ Word.listBytes
  landmarks : c.landmarks + c.farLandmarks ≤ Word.tableEntries

omit [Scalar α] in
theorem Roomy.framed (roomy : Roomy c) : c.cameras * 48 ≤ Word.listBytes := by
  have cameras := roomy.cameras
  omega

structure Buildable : Prop extends Roomy c where
  drawable : ∀ i < c.landmarks + c.farLandmarks, Drawable c i

section Room

omit [Scalar α]

theorem landmark_count_ok (room : c.landmarks + c.farLandmarks ≤ Word.tableEntries) :
    landmarkCount c = .ok (c.landmarks + c.farLandmarks) := by
  have small : c.landmarks + c.farLandmarks < UInt64.size := by
    rw [Word.tableEntries] at room
    rw [UInt64.size]
    omega
  rw [landmarkCount, Word.add, if_pos small, ok_bind, Word.reserveTable, require_bind _ _ _ room]
  rfl

theorem landmark_count_faults (crowded : ¬ c.landmarks + c.farLandmarks ≤ Word.tableEntries) : Faults (landmarkCount c) := by
  rw [landmarkCount, Word.add]
  by_cases small : c.landmarks + c.farLandmarks < UInt64.size
  · rw [if_pos small, ok_bind, Word.reserveTable, require, if_neg crowded]
    exact error_faults _
  · rw [if_neg small]
    exact error_faults _

theorem landmarks_nameable (room : c.landmarks + c.farLandmarks ≤ Word.tableEntries) (i : Nat)
    (inside : i < c.landmarks + c.farLandmarks) : Nameable i := by
  rw [Word.tableEntries] at room
  rw [Nameable, UInt64.size]
  omega

end Room

theorem vertices_refused (some : c.vertices ≠ 0)
    (tight : ¬ (c.cameras * 48 ≤ Word.listBytes ∧ c.vertices * 64 ≤ Word.listBytes)) (d : Draft α) :
    Faults (addVertices c home d) := by
  rw [addVertices, bind_faults]
  by_cases room : c.vertices * 64 ≤ Word.listBytes
  · obtain ⟨n, more⟩ := Nat.exists_eq_succ_of_ne_zero some
    refine .inr ⟨(), (require_ok _ _ _).mpr room, ?_⟩
    rw [more, List.range_succ_eq_map, List.foldlM_cons, vertex_outcome c 0 zero_nameable,
      if_neg fun cameras => tight ⟨cameras, room⟩]
    exact error_faults _
  · exact .inl ((require_faults _ _).mpr room)

section Rigged

variable (rig : Rig α) (rigged : rig.mounts.length = c.cameras)

theorem furnish_parts : ∃ bare : Draft α, Cleared c rig [] bare.map ∧
    furnish c source rig = addVertices c home bare >>= plant c source rig := by
  obtain ⟨bare, placed, cleared⟩ := mission_placed c rig (missionWith rig []) rfl
  refine ⟨bare, cleared, ?_⟩
  rw [furnish, Mission.create, require_bind _ _ _ home_valid, pure_bind]
  change (Draft.update ⟨Map.empty, 0⟩ (Map.addMission (missionWith rig [])) >>= _) = _
  rw [placed]
  rfl

theorem cleared_populated (map : Map α) (cleared : Cleared c rig (List.range c.vertices) map) :
    Populated c source rig [] map := by
  obtain ⟨grounded, landmarks, index⟩ := cleared
  refine ⟨⟨grounded, ?_, fun i inside => ?_, fun i _ _ => ?_⟩, fun i p seen found => ?_⟩
  · rw [landmarks]
    rfl
  · cases inside
  · rw [index]
    rfl
  · cases found

include rigged

theorem furnished (buildable : Buildable c) :
    ∃ s ps, furnish c source rig = .ok s ∧ s.truth = numberedFrom 0 ps ∧ ps.length = c.landmarks + c.farLandmarks ∧
      (∀ i p, ps[i]? = some p → DepthFrom source (depthRange c i) p.y) ∧
      Populated c source rig (ps.map fun p => (p, views c rig)) s.map := by
  obtain ⟨bare, cleared, parts⟩ := furnish_parts c source rig
  obtain ⟨d, added, staged⟩ := vertices_placed c rig rigged bare cleared (buildable.framed c) buildable.vertices
  obtain ⟨after, ps, done, count, depths, full⟩ := landmarks_drawn c source rig rigged (c.landmarks + c.farLandmarks) 0 [] rfl d
    (cleared_populated c source rig d.map staged) (fun i inside => landmarks_nameable c buildable.landmarks i (by omega))
    fun i inside _ => buildable.drawable i (by omega)
  refine ⟨⟨after.map, numberedFrom 0 ps⟩, ps, ?_, rfl, count, fun i p found => ?_, full⟩
  · rw [parts, added, ok_bind, plant, landmark_count_ok c buildable.landmarks, ok_bind, done]
    rfl
  · have depth := depths i p found
    rwa [Nat.zero_add] at depth

theorem furnish_faults (cameras : c.cameras * 56 ≤ Word.listBytes) (some : c.vertices ≠ 0) (unbuildable : ¬ Buildable c) :
    Faults (furnish c source rig) := by
  obtain ⟨bare, cleared, parts⟩ := furnish_parts c source rig
  rw [parts, bind_faults]
  by_cases room : c.cameras * 48 ≤ Word.listBytes ∧ c.vertices * 64 ≤ Word.listBytes
  · obtain ⟨d, added, staged⟩ := vertices_placed c rig rigged bare cleared room.1 room.2
    refine .inr ⟨d, added, (bind_faults _ _).mpr ?_⟩
    by_cases landmarks : c.landmarks + c.farLandmarks ≤ Word.tableEntries
    · have undrawable : ∃ i < c.landmarks + c.farLandmarks, ¬ Drawable c i := by
        by_contra none
        push Not at none
        exact unbuildable ⟨⟨cameras, room.2, landmarks⟩, none⟩
      obtain ⟨i, inside, undrawable⟩ := undrawable
      refine .inr ⟨_, landmark_count_ok c landmarks, (bind_faults _ _).mpr (.inl ?_)⟩
      exact landmarks_refused c source rig rigged _ 0 [] rfl d (cleared_populated c source rig d.map staged)
        (fun j within => landmarks_nameable c landmarks j (by omega)) i (by omega) (Nat.zero_le i) undrawable
    · exact .inl (landmark_count_faults c landmarks)
  · exact .inl (vertices_refused c some room bare)

end Rigged

-- What the checks of a configuration ask of it.
structure Checked : Prop where
  vertices : c.vertices ≠ 0
  cameras : c.cameras ≠ 0
  near : 0 < c.depthRange.1 ∧ c.depthRange.1 ≤ c.depthRange.2
  far : 0 < c.farDepthRange.1 ∧ c.farDepthRange.1 ≤ c.farDepthRange.2
  noise : 0 ≤ c.pixelNoise
  period : 0 < c.period

theorem validate_outcome :
    (Checked c ∧ c.validate = .ok ()) ∨ (¬ Checked c ∧ ∃ defect, c.validate = .error (.invalidConfig defect)) := by
  rw [SceneConfig.validate]
  by_cases empty : c.vertices = 0 ∨ c.cameras = 0
  · refine .inr ⟨fun checked => ?_, _, if_pos empty⟩
    exact empty.elim checked.vertices checked.cameras
  · rw [if_neg empty]
    by_cases ranges : (0 < c.depthRange.1 ∧ c.depthRange.1 ≤ c.depthRange.2) ∧ 0 < c.farDepthRange.1 ∧
        c.farDepthRange.1 ≤ c.farDepthRange.2
    · rw [if_neg (by simp [ranges.1.1, ranges.1.2, ranges.2.1, ranges.2.2])]
      by_cases signs : ¬ 0 ≤ c.pixelNoise ∨ ¬ 0 < c.period
      · refine .inr ⟨fun checked => ?_, _, if_pos signs⟩
        exact signs.elim (absurd checked.noise) (absurd checked.period)
      · obtain ⟨noise, period⟩ := not_or.mp signs
        obtain ⟨vertices, cameras⟩ := not_or.mp empty
        exact .inl ⟨⟨vertices, cameras, ranges.1, ranges.2, not_not.mp noise, not_not.mp period⟩, if_neg signs⟩
    · refine .inr ⟨fun checked => ranges ⟨checked.near, checked.far⟩, .depthRanges, if_pos ?_⟩
      rw [← Bool.not_eq_true]
      simpa using ranges

theorem checked_validates (checked : Checked c) : c.validate = .ok () := by
  rcases validate_outcome c with ⟨_, accepted⟩ | ⟨unchecked, _⟩
  · exact accepted
  · exact absurd checked unchecked

theorem camera_refused (p : PinholeParameters α) (cause : Error α) (refused : Pinhole.ofParameters? p = .error cause) :
    ∃ defect, cause = .invalidCamera defect := by
  rw [Pinhole.ofParameters?] at refused
  by_cases focal : p.FocalLengthsValid
  · rw [dif_pos focal] at refused
    by_cases size : p.SizeValid
    · rw [dif_pos size] at refused
      cases refused
    · rw [dif_neg size] at refused
      cases refused
      exact ⟨_, rfl⟩
  · rw [dif_neg focal] at refused
    cases refused
    exact ⟨_, rfl⟩

theorem build_checked (checked : Checked c) :
    build c source = rig c >>= fun rig => (furnish c source rig).mapError Failure.fault := by
  rw [build_parts, checked_validates c checked]

theorem build_succeeds (checked : Checked c) (rig : Rig α) (mounted : Scene.rig c = .ok rig) (buildable : Buildable c) :
    ∃ s, build c source = .ok s := by
  obtain ⟨s, _, built, _⟩ := furnished c source rig (rig_length c rig mounted) buildable
  rw [build_checked c source checked, mounted, ok_bind, built]
  exact ⟨s, rfl⟩

theorem build_stops (checked : Checked c) (rig : Rig α) (mounted : Scene.rig c = .ok rig) (unbuildable : ¬ Buildable c) :
    ∃ cause, build c source = .error (.fault cause) := by
  obtain ⟨cause, stopped⟩ := furnish_faults c source rig (rig_length c rig mounted) ((rig_ok c rig).mp mounted).1
    checked.vertices unbuildable
  rw [build_checked c source checked, mounted, ok_bind, stopped]
  exact ⟨cause, rfl⟩

-- What a scene that was built has gone through.
theorem built_parts (s : Scene α) (built : build c source = .ok s) :
    Checked c ∧ ∃ rig, Scene.rig c = .ok rig ∧ rig.mounts.length = c.cameras ∧ Buildable c ∧ furnish c source rig = .ok s := by
  rcases validate_outcome c with ⟨checked, _⟩ | ⟨_, defect, refused⟩
  · have parts := built
    rw [build_checked c source checked] at parts
    obtain ⟨rig, mounted, done⟩ := (bind_ok _ _ _).mp parts
    refine ⟨checked, rig, mounted, rig_length c rig mounted, ?_, (map_error_ok _ _ _).mp done⟩
    by_contra unbuildable
    obtain ⟨cause, stopped⟩ := build_stops c source checked rig mounted unbuildable
    cases built.symm.trans stopped
  · rw [build_parts, refused] at built
    cases built

-- What passes all checks although it cannot be built. Room for the cameras is made before their parameters
-- are looked at.
structure Overlooked : Prop where
  checked : Checked c
  camera : c.cameras * 56 ≤ Word.listBytes → ∃ camera, Pinhole.ofParameters? c.camera = .ok camera
  unbuildable : ¬ Buildable c

theorem build_answers_unless_overlooked :
    (Overlooked c → ∃ cause, build c source = .error (.fault cause)) ∧
      (¬ Overlooked c → (∃ s, build c source = .ok s) ∨
        (∃ defect, build c source = .error (.error (.invalidConfig defect))) ∨
          ∃ defect, build c source = .error (.error (.invalidCamera defect))) := by
  rcases validate_outcome c with ⟨checked, _⟩ | ⟨unchecked, defect, refused⟩
  · by_cases room : c.cameras * 56 ≤ Word.listBytes
    · cases made : Pinhole.ofParameters? c.camera with
      | error cause =>
          obtain ⟨defect, rfl⟩ := camera_refused c.camera cause made
          have refused : build c source = .error (.error (.invalidCamera defect)) := by
            rw [build_checked c source checked, rig_outcome, if_pos room, made]
            rfl
          refine ⟨fun overlooked => ?_, fun _ => .inr (.inr ⟨defect, refused⟩)⟩
          obtain ⟨camera, there⟩ := overlooked.camera room
          cases made.symm.trans there
      | ok camera =>
          have mounted := (rig_ok c _).mpr ⟨room, camera, made, rfl⟩
          refine ⟨fun overlooked => build_stops c source checked _ mounted overlooked.unbuildable, fun seen => .inl ?_⟩
          have buildable : Buildable c := by
            by_contra unbuildable
            exact seen ⟨checked, fun _ => ⟨camera, made⟩, unbuildable⟩
          exact build_succeeds c source checked _ mounted buildable
    · have tight : build c source = .error (.fault .listTooLong) := by
        rw [build_checked c source checked, rig_outcome, if_neg room]
        rfl
      refine ⟨fun _ => ⟨_, tight⟩, fun seen => absurd ⟨checked, fun there => absurd there room, fun buildable => ?_⟩ seen⟩
      exact room buildable.cameras
  · refine ⟨fun overlooked => absurd overlooked.checked unchecked, fun _ => .inr (.inl ⟨defect, ?_⟩)⟩
    rw [build_parts, refused]

-- A track that runs backward has no place along it to draw from.
theorem backward_point (draws i : Nat) (backward : ¬ 0 ≤ trajectoryLength c)
    (depth : (depthRange c i).1 < (depthRange c i).2 → OpenRange (depthRange c i).1 (depthRange c i).2) :
    drawPoint source draws (trajectoryLength c) (depthRange c i) = .error .emptyRange := by
  have nowhere : ∀ n depth, drawPlace source n (trajectoryLength c) depth = .error .emptyRange := by
    intro n depth
    rw [drawPlace, RandomSource.drawUpTo, require, if_neg backward]
    rfl
  rw [draw_point_parts]
  by_cases wide : (depthRange c i).1 < (depthRange c i).2
  · rw [if_pos wide, (draw_below_ok source draws _ _ _).mpr ⟨depth wide, rfl⟩, ok_bind, nowhere]
  · rw [if_neg wide, nowhere]

theorem backward_scene (checked : Checked c) (rig : Rig α) (mounted : Scene.rig c = .ok rig)
    (roomy : Roomy c) (some : c.landmarks + c.farLandmarks ≠ 0) (backward : ¬ 0 ≤ trajectoryLength c)
    (depth : (depthRange c 0).1 < (depthRange c 0).2 → OpenRange (depthRange c 0).1 (depthRange c 0).2) :
    build c source = .error (.fault .emptyRange) := by
  obtain ⟨bare, cleared, parts⟩ := furnish_parts c source rig
  obtain ⟨d, added, _⟩ := vertices_placed c rig (rig_length c rig mounted) bare cleared (roomy.framed c) roomy.vertices
  obtain ⟨n, more⟩ := Nat.exists_eq_succ_of_ne_zero some
  rw [build_checked c source checked, mounted, ok_bind, parts, added, ok_bind, plant, landmark_count_ok c roomy.landmarks,
    ok_bind, more, addLandmarks, addLandmark, backward_point c source d.draws 0 backward depth]
  rfl

theorem drawable_exact (c : SceneConfig ℝ) (i : Nat) : Drawable c i ↔ 0 ≤ trajectoryLength c := by
  constructor
  · intro drawable
    exact drawable.along.1
  · intro forward
    exact ⟨fun wide => ⟨wide, rfl⟩, ⟨forward, rfl, rfl⟩, ⟨by norm_num, rfl⟩, ⟨by norm_num, rfl⟩⟩

-- Where there is room, a track that runs backward is all that the checks overlook.
theorem overlooked_exact (c : SceneConfig ℝ) (checked : Checked c) (rig : Rig ℝ) (mounted : Scene.rig c = .ok rig)
    (roomy : Roomy c) : Overlooked c ↔ c.landmarks + c.farLandmarks ≠ 0 ∧ trajectoryLength c < 0 := by
  obtain ⟨_, camera, made, _⟩ := (rig_ok c rig).mp mounted
  constructor
  · intro overlooked
    by_contra fine
    refine overlooked.unbuildable ⟨roomy, fun i inside => (drawable_exact c i).mpr ?_⟩
    by_contra backward
    exact fine ⟨Nat.ne_of_gt (Nat.lt_of_le_of_lt (Nat.zero_le i) inside), not_le.mp backward⟩
  · rintro ⟨some, backward⟩
    refine ⟨checked, fun _ => ⟨camera, made⟩, fun buildable => ?_⟩
    exact absurd ((drawable_exact c 0).mp (buildable.drawable 0 (Nat.pos_of_ne_zero some))) (not_le.mpr backward)

-- Three vertices on a line, a step apart.
def steppedTrack (step : α) : SceneConfig α := { (default : SceneConfig α) with vertices := 3, spacing := step }

theorem stepped_roomy (step : α) : Roomy (steppedTrack step) :=
  ⟨(by decide : 1 * 56 ≤ Word.listBytes), (by decide : 3 * 64 ≤ Word.listBytes), (by decide : 300 + 30 ≤ Word.tableEntries)⟩

theorem stepped_rig (step : α) (focal : (steppedTrack step).camera.FocalLengthsValid) :
    ∃ rig, Scene.rig (steppedTrack step) = .ok rig := by
  have size : (steppedTrack step).camera.SizeValid := ⟨(by decide : 752 ≠ 0), (by decide : 480 ≠ 0)⟩
  have accepted : Pinhole.ofParameters? (steppedTrack step).camera = .ok ⟨(steppedTrack step).camera, focal, size⟩ := by
    rw [Pinhole.ofParameters?, dif_pos focal, dif_pos size]
  exact ⟨_, (rig_ok _ _).mpr ⟨(by decide : 1 * 56 ≤ Word.listBytes), _, accepted, rfl⟩⟩

theorem stepped_checked (step : ℝ) : Checked (steppedTrack step) := by
  refine ⟨(by decide : 3 ≠ 0), (by decide : 1 ≠ 0), ?_, ?_, le_refl (0 : ℝ), ?_⟩
  · change (0 : ℝ) < 2.0 ∧ (2.0 : ℝ) ≤ 12.0
    norm_num
  · change (0 : ℝ) < 60.0 ∧ (60.0 : ℝ) ≤ 80.0
    norm_num
  · change (0 : ℝ) < 0.1
    norm_num

theorem stepped_focal (step : ℝ) : (steppedTrack step).camera.FocalLengthsValid := by
  refine ⟨⟨?_, ?_⟩, rfl, rfl⟩
  · change (0 : ℝ) < 458.654
    norm_num
  · change (0 : ℝ) < 457.296
    norm_num

theorem forward_track_built (source : RandomSource ℝ) : ∃ s, build (steppedTrack 1) source = .ok s := by
  obtain ⟨rig, mounted⟩ := stepped_rig 1 (stepped_focal 1)
  have forward : 0 ≤ trajectoryLength (steppedTrack (1 : ℝ)) := by
    change (0 : ℝ) ≤ 2 * 1
    norm_num
  have buildable : Buildable (steppedTrack (1 : ℝ)) := ⟨stepped_roomy 1, fun i _ => (drawable_exact _ i).mpr forward⟩
  exact build_succeeds (steppedTrack 1) source (stepped_checked 1) rig mounted buildable

section Doubles

theorem stepped_double_rig (step : Float) : ∃ rig, Scene.rig (steppedTrack step) = .ok rig :=
  stepped_rig step ⟨(by decide +kernel : (0 : Float) < 458.654 ∧ (0 : Float) < 457.296),
    (by decide +kernel : (367.215 : Float).isFinite = true), (by decide +kernel : (248.375 : Float).isFinite = true)⟩

theorem stepped_double_checked (step : Float) : Checked (steppedTrack step) :=
  ⟨(by decide : 3 ≠ 0), (by decide : 1 ≠ 0), (by decide +kernel : (0 : Float) < 2.0 ∧ (2.0 : Float) ≤ 12.0),
    (by decide +kernel : (0 : Float) < 60.0 ∧ (60.0 : Float) ≤ 80.0), (by decide +kernel : (0 : Float) ≤ 0),
    (by decide +kernel : (0 : Float) < 0.1)⟩

theorem stepped_double_drawable (i : Nat) : Drawable (steppedTrack (1 : Float)) i := by
  have along : ClosedRange (0 : Float) (Scalar.ofNat 2 * 1) :=
    ⟨by decide +kernel, (by decide +kernel : (2.0 : Float).isFinite = true),
      (by decide +kernel : ((2.0 - 0 : Float) / (1 - Scalar.epsilon)).isFinite = true)⟩
  have sides : OpenRange (-0.3 : Float) 0.3 ∧ OpenRange (-0.25 : Float) 0.25 :=
    ⟨⟨by decide +kernel, by decide +kernel⟩, by decide +kernel, by decide +kernel⟩
  refine ⟨fun wide => ⟨wide, ?_⟩, along, sides.1, sides.2⟩
  rw [depthRange]
  split_ifs
  · exact (by decide +kernel : ((12.0 : Float) - 2.0).isFinite = true)
  · exact (by decide +kernel : ((80.0 : Float) - 60.0).isFinite = true)

theorem forward_double_built (source : RandomSource Float) : ∃ s, build (steppedTrack 1) source = .ok s := by
  obtain ⟨rig, mounted⟩ := stepped_double_rig 1
  exact build_succeeds (steppedTrack 1) source (stepped_double_checked 1) rig mounted
    ⟨stepped_roomy 1, fun i _ => stepped_double_drawable i⟩

theorem backward_track_panics :
    (steppedTrack (-1 : Float)).validate = .ok () ∧
      ∀ source : RandomSource Float, build (steppedTrack (-1)) source = .error (.fault .emptyRange) := by
  obtain ⟨rig, mounted⟩ := stepped_double_rig (-1)
  refine ⟨checked_validates _ (stepped_double_checked (-1)), fun source => ?_⟩
  refine backward_scene _ source (stepped_double_checked (-1)) rig mounted (stepped_roomy (-1)) (by decide) ?_ fun wide =>
    ⟨wide, ?_⟩
  · exact (by decide +kernel : ¬ (0 : Float) ≤ Scalar.ofNat 2 * -1)
  · exact (by decide +kernel : ((12.0 : Float) - 2.0).isFinite = true)

end Doubles

end Scene

end LandmarkMap
