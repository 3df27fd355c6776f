import LandmarkMap.Proofs.Solver.Reprojection
import LandmarkMap.Proofs.Solver.LandmarkMotion

set_option autoImplicit false

namespace LandmarkMap

open Filter Matrix Topology

namespace ReprojectionError

-- A state with a residual, at which the lens is smooth.
structure Regular (e : ReprojectionError ℝ) (s : ReprojectionState ℝ) (k : Intrinsics ℝ)
    (ps : Vector ℝ e.camera.distortion.kind.count) : Prop where
  described : e.Describes s k ps
  defined : s.Defined
  front : 0 < s.inCamera.z
  smooth : Distortion.Smooth ⟨e.camera.distortion.kind, ps⟩ (imagePoint s.inCamera)

variable {n : Nat} (e : ReprojectionError ℝ) (s : ReprojectionState ℝ) (k : Intrinsics ℝ)
  (ps : Vector ℝ e.camera.distortion.kind.count)

theorem weighted_jacobian (pixel : (Fin n → ℝ) → Vec2 ℝ) (j : Matrix (Fin 2) (Fin n) ℝ) (x : Fin n → ℝ)
    (known : HasJacobian (fun y => (pixel y).get) j x) :
    HasJacobian (fun y => ((pixel y - e.measurement).divide e.pixelSigma).get) ((1 / e.pixelSigma) • j) x := by
  have shifted := jacobian_shift _ _ x (-((1 / e.pixelSigma) • e.measurement.get))
    (jacobian_smul _ _ x (1 / e.pixelSigma) known)
  refine jacobian_same _ _ _ _ shifted fun y => ?_
  rw [plane_get_divide, plane_get_sub, smul_sub, ← sub_eq_add_neg, one_div]

theorem residual_point_jacobian (p : Vec3 ℝ) (front : 0 < p.z)
    (smooth : Distortion.Smooth ⟨e.camera.distortion.kind, ps⟩ (imagePoint p)) :
    HasJacobian (fun x => (e.residualAt k ps (Vec3.of x)).get) (e.byCameraPoint (e.derivativesAt k ps p)).toMatrix
      p.get := by
  rw [byCameraPoint, matrix_scale]
  exact e.weighted_jacobian _ _ p.get (projected_point_jacobian k _ p front smooth)

-- Along a path of states the residual follows the landmark through the frame of the camera.
theorem path_residual (path : (Fin n → ℝ) → ReprojectionState ℝ) (m : Matrix (Fin 3) (Fin n) ℝ) (x : Fin n → ℝ)
    (regular : e.Regular (path x) k ps) (moves : HasJacobian (fun y => (path y).inCamera.get) m x) :
    HasJacobian (fun y => (e.residualAt k ps (path y).inCamera).get)
      ((e.byCameraPoint (e.derivativesAt k ps (path x).inCamera)).toMatrix * m) x :=
  jacobian_chain _ _ _ _ x (e.residual_point_jacobian k ps _ regular.front regular.smooth) moves

theorem path_evaluates (path : (Fin n → ℝ) → ReprojectionState ℝ) (m : Matrix (Fin 3) (Fin n) ℝ) (x : Fin n → ℝ)
    (regular : e.Regular (path x) k ps) (moves : HasJacobian (fun y => (path y).inCamera.get) m x)
    (described : ∀ y, e.Describes (path y) k ps) (defined : ∀ᶠ y in 𝓝 x, (path y).Defined) :
    ∀ᶠ y in 𝓝 x, e.evaluate (e.blocks (path y)) (Buffers.plain 2) =
      .ok (true, ⟨List.ofFn (e.residualAt k ps (path y).inCamera).get, none⟩) := by
  have depth : ContinuousAt (fun y => (path y).inCamera.z) x :=
    (continuous_apply (2 : Fin 3)).continuousAt.comp (jacobian_continuous _ _ _ moves)
  filter_upwards [defined, depth.eventually_const_lt regular.front] with y possible front
  exact e.evaluate_plain (path y) k ps (described y) possible front

theorem by_mission_point (p : ProjectionJacobians e.camera.distortion.kind.count ℝ) :
    (e.byMissionPoint s p).toMatrix = (e.byCameraPoint p).toMatrix * (s.cameraMat * s.bodyMat.transpose).toMatrix :=
  matrix_mul _ _

-- A block that moves along the axes and takes the landmark with it.
theorem axes_exact (block : Nat) (path : (Fin n → ℝ) → ReprojectionState ℝ) (x : Fin n → ℝ)
    (m : Matrix (Fin 3) (Fin n) ℝ) (written : Mat 2 n ℝ) (start : path x = s)
    (held : (e.blocks s)[block]? = some (List.ofFn x))
    (placed : ∀ y, (e.blocks s).set block (List.ofFn y) = e.blocks (path y)) (regular : e.Regular s k ps)
    (described : ∀ y, e.Describes (path y) k ps) (defined : ∀ᶠ y in 𝓝 x, (path y).Defined)
    (moves : HasJacobian (fun y => (path y).inCamera.get) m x)
    (matrix : written.toMatrix = (e.byCameraPoint (e.derivativesAt k ps s.inCamera)).toMatrix * m) :
    e.term.ExactAt (.euclideanOf n) (e.blocks s) block written.entries := by
  subst start
  have derivative : HasJacobian (fun y => (e.residualAt k ps (path y).inCamera).get) written.toMatrix x := by
    rw [matrix]
    exact e.path_residual k ps path m x regular moves
  have nearby : ∀ᶠ y in 𝓝 x, e.evaluate ((e.blocks (path x)).set block (List.ofFn y)) (Buffers.plain 2) =
      .ok (true, ⟨List.ofFn (e.residualAt k ps (path y).inCamera).get, none⟩) := by
    simp only [placed]
    exact e.path_evaluates k ps path m x regular moves described defined
  exact identity_exact e.term _ block x written _ held nearby derivative

-- A block that moves along the unit quaternions and takes the landmark with it.
theorem turns_exact (block : Nat) (path : (Fin 3 → ℝ) → ReprojectionState ℝ) (q : Quaternion ℝ)
    (m : Matrix (Fin 3) (Fin 3) ℝ) (written : Mat 2 4 ℝ) (start : path 0 = s)
    (held : (e.blocks s)[block]? = some q.toList)
    (placed : ∀ δ, (e.blocks s).set block (Quaternion.exp (Vec3.of δ) * q).toList = e.blocks (path δ))
    (regular : e.Regular s k ps) (described : ∀ δ, e.Describes (path δ) k ps) (defined : ∀ δ, (path δ).Defined)
    (moves : HasJacobian (fun δ => (path δ).inCamera.get) m 0)
    (matrix : written.toMatrix * q.plusJacobian.toMatrix =
      (e.byCameraPoint (e.derivativesAt k ps s.inCamera)).toMatrix * m) :
    e.term.ExactAt .quaternion (e.blocks s) block written.entries := by
  subst start
  have derivative : HasJacobian (fun δ => (e.residualAt k ps (path δ).inCamera).get)
      (written.toMatrix * q.plusJacobian.toMatrix) 0 := by
    rw [matrix]
    exact e.path_residual k ps path m 0 regular moves
  have nearby : ∀ᶠ δ in 𝓝 0, e.evaluate ((e.blocks (path 0)).set block (Quaternion.exp (Vec3.of δ) * q).toList)
      (Buffers.plain 2) = .ok (true, ⟨List.ofFn (e.residualAt k ps (path δ).inCamera).get, none⟩) := by
    simp only [placed]
    exact e.path_evaluates k ps path m 0 regular moves described (Eventually.of_forall defined)
  exact quaternion_exact e.term _ block q written _ held nearby derivative

theorem anchor_exact (regular : e.Regular s k ps) :
    e.term.ExactAt (.euclideanOf 3) (e.blocks s) 0 (e.byMissionPoint s (e.derivativesAt k ps s.inCamera)).entries := by
  obtain ⟨intrinsics, distortion, mounted⟩ := regular.described
  obtain ⟨depth, norms, bearing⟩ := regular.defined
  refine e.axes_exact s k ps 0 (fun y => { s with anchor := Vec3.of y }) s.anchor.get _ _ rfl rfl (fun _ => rfl) regular
    (fun _ => ⟨intrinsics, distortion, mounted⟩) (Eventually.of_forall fun _ => ⟨depth, norms, bearing⟩)
    (offset_moves s _ _ _ (fun _ => ⟨rfl, rfl, rfl⟩) (anchor_offset s s.anchor.get)) ?_
  rw [by_mission_point, Matrix.mul_one]

theorem body_position_exact (regular : e.Regular s k ps) :
    e.term.ExactAt (.euclideanOf 3) (e.blocks s) 4 (-e.byMissionPoint s (e.derivativesAt k ps s.inCamera)).entries := by
  obtain ⟨intrinsics, distortion, mounted⟩ := regular.described
  obtain ⟨depth, norms, bearing⟩ := regular.defined
  refine e.axes_exact s k ps 4 (fun y => { s with bodyPosition := Vec3.of y }) s.bodyPosition.get _ _ rfl rfl
    (fun _ => rfl) regular (fun _ => ⟨intrinsics, distortion, mounted⟩)
    (Eventually.of_forall fun _ => ⟨depth, norms, bearing⟩)
    (offset_moves s _ _ _ (fun _ => ⟨rfl, rfl, rfl⟩) (position_offset s s.bodyPosition.get)) ?_
  rw [matrix_neg, by_mission_point, Matrix.mul_neg, Matrix.mul_neg, Matrix.mul_one]

theorem inverse_depth_exact (regular : e.Regular s k ps) :
    e.term.ExactAt (.euclideanOf 1) (e.blocks s) 2
      (e.inverseDepthJacobian s (e.derivativesAt k ps s.inCamera)).entries := by
  obtain ⟨intrinsics, distortion, mounted⟩ := regular.described
  obtain ⟨depth, norms, bearing⟩ := regular.defined
  have positive : ∀ᶠ y : Fin 1 → ℝ in 𝓝 fun _ => s.inverseDepth, 0 < y 0 :=
    (continuous_apply (0 : Fin 1)).continuousAt.eventually_const_lt depth
  refine e.axes_exact s k ps 2 (fun y => { s with inverseDepth := y 0 }) (fun _ => s.inverseDepth) _ _ rfl rfl
    (fun _ => rfl) regular (fun _ => ⟨intrinsics, distortion, mounted⟩) (positive.mono fun _ => (⟨·, norms, bearing⟩))
    (offset_moves s _ _ _ (fun _ => ⟨rfl, rfl, rfl⟩) (depth_offset s _ depth.ne')) ?_
  rw [inverseDepthJacobian, matrix_mul, by_mission_point, Matrix.mul_assoc, column_matrix]
  congr 2
  ext i k
  simp only [Matrix.of_apply, space_get_divide, space_get_neg, Pi.smul_apply, Pi.neg_apply, smul_eq_mul]
  ring

theorem tolerance_below_one : (bearingTolerance : ℝ) < 1 := by
  rw [bearingTolerance]
  norm_num

theorem bearing_block_exact (regular : e.Regular s k ps) (unit : s.bearing.IsUnit) :
    e.term.ExactAt .bearing (e.blocks s) 1 (e.bearingJacobian s (e.derivativesAt k ps s.inCamera)).entries := by
  obtain ⟨intrinsics, distortion, mounted⟩ := regular.described
  obtain ⟨depth, norms, _⟩ := regular.defined
  let path : (Fin 2 → ℝ) → ReprojectionState ℝ := fun δ =>
    { s with bearing := (Bearing.plus ⟨s.bearing⟩ (Vec2.of δ)).rotation }
  have start : path 0 = s := congrArg (fun q => ({ s with bearing := q } : ReprojectionState ℝ)) (bearing_still s.bearing)
  have moved : ∀ δ, (path δ).bearing.norm = 1 := fun δ => unit_product _ _ (unit_exp _) unit
  have moves := offset_moves s path _ 0 (fun _ => ⟨rfl, rfl, rfl⟩) (bearing_offset s)
  have here : e.Regular (path 0) k ps := start ▸ regular
  have derivative : HasJacobian (fun δ => (e.residualAt k ps (path δ).inCamera).get)
      ((e.bearingJacobian s (e.derivativesAt k ps s.inCamera)).toMatrix * (Bearing.plusJacobian ⟨s.bearing⟩).toMatrix)
      0 := by
    refine jacobian_congr _ _ _ _ (e.path_residual k ps path _ 0 here moves) ?_
    rw [start, bearingJacobian, byMissionPoint, matrix_divide]
    simp only [matrix_mul, Matrix.mul_smul, Matrix.smul_mul, Matrix.mul_assoc]
  have nearby : ∀ᶠ δ in 𝓝 0, e.evaluate ((e.blocks s).set 1 (path δ).bearing.toList) (Buffers.plain 2) =
      .ok (true, ⟨List.ofFn (e.residualAt k ps (path δ).inCamera).get, none⟩) :=
    e.path_evaluates k ps path _ 0 here moves (fun _ => ⟨intrinsics, distortion, mounted⟩)
      (Eventually.of_forall fun δ => ⟨depth, norms, (moved δ).symm ▸ tolerance_below_one⟩)
  exact bearing_exact e.term _ 1 s.bearing unit _ _ rfl nearby derivative

theorem body_rotation_exact (regular : e.Regular s k ps) (unit : s.bodyRotation.IsUnit) :
    e.term.ExactAt .quaternion (e.blocks s) 3 (e.bodyRotationJacobian s (e.derivativesAt k ps s.inCamera)).entries := by
  obtain ⟨intrinsics, distortion, mounted⟩ := regular.described
  obtain ⟨depth, ⟨_, camera⟩, bearing⟩ := regular.defined
  have moved : ∀ δ : Fin 3 → ℝ, (Quaternion.exp (Vec3.of δ) * s.bodyRotation).norm = 1 := fun δ =>
    unit_product _ _ (unit_exp _) unit
  refine e.turns_exact s k ps 3 (fun δ => { s with bodyRotation := Quaternion.exp (Vec3.of δ) * s.bodyRotation })
    s.bodyRotation _ _ (congrArg (fun q => ({ s with bodyRotation := q } : ReprojectionState ℝ)) (turn_still _)) rfl
    (fun _ => rfl) regular (fun _ => ⟨intrinsics, distortion, mounted⟩)
    (fun δ => ⟨depth, ⟨(moved δ).symm ▸ one_pos, camera⟩, bearing⟩) (body_rotation_moves s unit) ?_
  rw [bodyRotationJacobian, lift_plus_jacobian, (unit_dot _).mp unit, one_smul]
  simp only [matrix_mul, Matrix.mul_assoc]

section Mounted

variable (optimized : e.extrinsics = .optimized)

include optimized

theorem not_mounted {P : Pose ℝ → Prop} (pose : Pose ℝ) (fixed : e.extrinsics = .fixed pose) : P pose := by
  rw [optimized] at fixed
  cases fixed

theorem camera_rotation_exact (regular : e.Regular s k ps) (unit : s.cameraRotation.IsUnit) :
    e.term.ExactAt .quaternion (e.blocks s) 5 (e.cameraRotationJacobian s (e.derivativesAt k ps s.inCamera)).entries := by
  obtain ⟨intrinsics, distortion, _⟩ := regular.described
  obtain ⟨depth, ⟨body, _⟩, bearing⟩ := regular.defined
  have moved : ∀ δ : Fin 3 → ℝ, (Quaternion.exp (Vec3.of δ) * s.cameraRotation).norm = 1 := fun δ =>
    unit_product _ _ (unit_exp _) unit
  have held : (e.blocks s)[5]? = some s.cameraRotation.toList := by
    rw [blocks, optimized]
    rfl
  refine e.turns_exact s k ps 5 (fun δ => { s with cameraRotation := Quaternion.exp (Vec3.of δ) * s.cameraRotation })
    s.cameraRotation _ _ (congrArg (fun q => ({ s with cameraRotation := q } : ReprojectionState ℝ)) (turn_still _)) held
    (fun _ => e.blocks_camera_rotation s _ optimized) regular
    (fun _ => ⟨intrinsics, distortion, e.not_mounted optimized⟩)
    (fun δ => ⟨depth, ⟨body, (moved δ).symm ▸ one_pos⟩, bearing⟩) (camera_rotation_moves s unit) ?_
  rw [cameraRotationJacobian, lift_plus_jacobian, (unit_dot _).mp unit, one_smul, matrix_mul, matrix_neg]

theorem camera_position_exact (regular : e.Regular s k ps) :
    e.term.ExactAt (.euclideanOf 3) (e.blocks s) 6 (e.byCameraPoint (e.derivativesAt k ps s.inCamera)).entries := by
  obtain ⟨intrinsics, distortion, _⟩ := regular.described
  obtain ⟨depth, norms, bearing⟩ := regular.defined
  have held : (e.blocks s)[6]? = some s.cameraPosition.toList := by
    rw [blocks, optimized]
    rfl
  have placed : ∀ y : Fin 3 → ℝ, (e.blocks s).set 6 (List.ofFn y) = e.blocks { s with cameraPosition := Vec3.of y } := by
    intro y
    rw [space_cells]
    exact e.blocks_camera_position s (Vec3.of y) optimized
  refine e.axes_exact s k ps 6 (fun y => { s with cameraPosition := Vec3.of y }) s.cameraPosition.get _ _ rfl held
    placed regular (fun _ => ⟨intrinsics, distortion, e.not_mounted optimized⟩)
    (Eventually.of_forall fun _ => ⟨depth, norms, bearing⟩) (camera_position_moves s s.cameraPosition.get) ?_
  rw [Matrix.mul_one]

end Mounted

theorem intrinsics_exact (regular : e.Regular s k ps) :
    e.term.ExactAt (.euclideanOf 4) (e.blocks s) e.intrinsicsBlock
      ((e.derivativesAt k ps s.inCamera).intrinsics.scale (1 / e.pixelSigma)).entries := by
  obtain ⟨intrinsics, distortion, mounted⟩ := regular.described
  obtain ⟨depth, norms, bearing⟩ := regular.defined
  let lens : (Fin 4 → ℝ) → Intrinsics ℝ := fun y => ⟨y 0, y 1, y 2, y 3⟩
  have held : (e.blocks s)[e.intrinsicsBlock]? = some (List.ofFn ![k.fx, k.fy, k.cx, k.cy]) := by
    rw [e.intrinsics_held, intrinsics]
    rfl
  have cells : ∀ y : Fin 4 → ℝ, List.ofFn y = (lens y).toList := fun y => List.ofFn_succ
  have derivative : HasJacobian (fun y => (e.residualAt (lens y) ps s.inCamera).get)
      ((e.derivativesAt k ps s.inCamera).intrinsics.scale (1 / e.pixelSigma)).toMatrix ![k.fx, k.fy, k.cx, k.cy] := by
    rw [matrix_scale]
    exact e.weighted_jacobian _ _ _ (projected_intrinsics_jacobian k _ s.inCamera _)
  have nearby : ∀ y : Fin 4 → ℝ, e.evaluate ((e.blocks s).set e.intrinsicsBlock (List.ofFn y)) (Buffers.plain 2) =
      .ok (true, ⟨List.ofFn (e.residualAt (lens y) ps s.inCamera).get, none⟩) := by
    intro y
    rw [blocks_intrinsics]
    exact e.evaluate_plain { s with intrinsics := List.ofFn y } (lens y) ps ⟨cells y, distortion, mounted⟩
      ⟨depth, norms, bearing⟩ regular.front
  exact identity_exact e.term _ _ _ _ _ held (Eventually.of_forall nearby) derivative

theorem distortion_exact (regular : e.Regular s k ps) (some : 0 < e.camera.distortion.kind.count) :
    e.term.ExactAt (.euclideanOf e.camera.distortion.kind.count) (e.blocks s) (e.intrinsicsBlock + 1)
      ((e.derivativesAt k ps s.inCamera).distortion.scale (1 / e.pixelSigma)).entries := by
  obtain ⟨intrinsics, distortion, mounted⟩ := regular.described
  obtain ⟨depth, norms, bearing⟩ := regular.defined
  have held : (e.blocks s)[e.intrinsicsBlock + 1]? = .some (List.ofFn ps.get) := by
    rw [e.distortion_held s some, distortion, vector_cells]
  have cells : ∀ y : Fin e.camera.distortion.kind.count → ℝ, List.ofFn y = (Vector.ofFn y).toList :=
    fun y => Vector.toList_ofFn.symm
  have derivative : HasJacobian (fun y => (e.residualAt k (Vector.ofFn y) s.inCamera).get)
      ((e.derivativesAt k ps s.inCamera).distortion.scale (1 / e.pixelSigma)).toMatrix ps.get := by
    have known := projected_distortion_jacobian k ⟨e.camera.distortion.kind, ps⟩ s.inCamera regular.smooth
    rw [matrix_scale]
    exact e.weighted_jacobian _ _ _ known
  have nearby : ∀ y : Fin e.camera.distortion.kind.count → ℝ,
      e.evaluate ((e.blocks s).set (e.intrinsicsBlock + 1) (List.ofFn y)) (Buffers.plain 2) =
        .ok (true, ⟨List.ofFn (e.residualAt k (Vector.ofFn y) s.inCamera).get, none⟩) := by
    intro y
    rw [e.blocks_distortion s _ some]
    exact e.evaluate_plain { s with distortion := List.ofFn y } k (Vector.ofFn y) ⟨intrinsics, cells y, mounted⟩
      ⟨depth, norms, bearing⟩ regular.front
  exact identity_exact e.term _ _ _ _ _ held (Eventually.of_forall nearby) derivative

-- Unit quaternions wherever a block holds a rotation.
structure UnitBlocks (e : ReprojectionError ℝ) (s : ReprojectionState ℝ) : Prop where
  bearing : s.bearing.IsUnit
  body : s.bodyRotation.IsUnit
  camera : e.extrinsics = .optimized → s.cameraRotation.IsUnit

theorem blocks_exact (regular : e.Regular s k ps) (unit : e.UnitBlocks s) :
    List.Forall₂ (fun (j : BlockJacobian 2 ℝ) update => e.term.ExactAt update (e.blocks s) j.block j.matrix.entries)
      (e.jacobians s (e.derivativesAt k ps s.inCamera)) e.updates := by
  rw [jacobians, updates, distortion_block]
  refine List.rel_append (List.rel_append (List.rel_append ?_ ?_) ?_) ?_
  · exact .cons (e.anchor_exact s k ps regular) <| .cons (e.bearing_block_exact s k ps regular unit.bearing) <|
      .cons (e.inverse_depth_exact s k ps regular) <| .cons (e.body_rotation_exact s k ps regular unit.body) <|
      .cons (e.body_position_exact s k ps regular) .nil
  · cases mode : e.extrinsics with
    | fixed pose => exact .nil
    | optimized =>
        exact .cons (e.camera_rotation_exact s k ps mode regular (unit.camera mode)) <|
          .cons (e.camera_position_exact s k ps mode regular) .nil
  · exact .cons (e.intrinsics_exact s k ps regular) .nil
  · by_cases some : 0 < e.camera.distortion.kind.count
    · simp only [if_pos some]
      exact .cons (e.distortion_exact s k ps regular some) .nil
    · simp only [if_neg some]
      exact .nil

theorem block_exact (regular : e.Regular s k ps) (unit : e.UnitBlocks s) (block : Nat) (update : Parameterization ℝ)
    (moves : e.updates[block]? = some update) :
    ∃ j ∈ e.jacobians s (e.derivativesAt k ps s.inCamera), j.block = block ∧
      e.term.ExactAt update (e.blocks s) j.block j.matrix.entries := by
  have all := e.blocks_exact s k ps regular unit
  have numbered := congrArg (·[block]?) (e.jacobian_blocks s (e.derivativesAt k ps s.inCamera))
  obtain ⟨inside, rfl⟩ := List.getElem?_eq_some_iff.mp moves
  have there := all.length_eq ▸ inside
  refine ⟨_, List.getElem_mem there, ?_, all.get there inside⟩
  simpa [there, inside] using numbered

theorem filled_exact (regular : e.Regular s k ps) (unit : e.UnitBlocks s) (slots out : List (Option (List ℝ)))
    (filled : fillAll slots (e.jacobians s (e.derivativesAt k ps s.inCamera)) = .ok out) :
    e.term.WritesExact e.updates (e.blocks s) slots out := by
  have distinct : ((e.jacobians s (e.derivativesAt k ps s.inCamera)).map (·.block)).Nodup :=
    e.jacobian_blocks s _ ▸ List.nodup_range
  refine ⟨e.update_sizes, fun block update buffer moves asked => ?_⟩
  obtain ⟨j, member, rfl, exact⟩ := e.block_exact s k ps regular unit block update moves
  exact ⟨_, fill_all_written _ slots out distinct filled j member buffer asked, exact⟩

-- Where the lens can be differentiated, for the landmark and the parameters that the blocks hold.
def SmoothAt (parameters : List (List ℝ)) : Prop :=
  ∀ s ps, e.readState? parameters = .ok (some s) → e.camera.distortion.withParameters s.distortion = .ok ps →
    Distortion.Smooth ⟨e.camera.distortion.kind, ps⟩ (imagePoint s.inCamera)

theorem unit_blocks
    (unit : ∀ block ∈ e.rotationBlocks, ∀ q : Quaternion ℝ, (e.blocks s)[block]? = some q.toList → q.IsUnit) :
    e.UnitBlocks s := by
  refine ⟨unit 1 List.mem_cons_self _ rfl, unit 3 (List.mem_cons_of_mem _ List.mem_cons_self) _ rfl, fun optimized => ?_⟩
  refine unit 5 ?_ _ ?_
  · rw [rotationBlocks, optimized]
    decide
  · rw [blocks, optimized]
    rfl

-- A wide lens, and a landmark that it sees to the side.
noncomputable def wideAngle : ReprojectionError ℝ where
  measurement := ⟨700, 250⟩
  pixelSigma := 2
  positive := by norm_num
  camera :=
    { name := "cam0", width := 640, height := 480, fx := 400, fy := 400, cx := 320, cy := 240,
      distortion := .fieldOfView 1, focal := ⟨⟨by norm_num, by norm_num⟩, rfl, rfl⟩, size := by decide }
  extrinsics := .optimized

noncomputable def aside : ReprojectionState ℝ where
  anchor := ⟨1, 0, 0⟩
  bearing := .identity
  inverseDepth := 1
  bodyRotation := .identity
  bodyPosition := .zero
  cameraRotation := .identity
  cameraPosition := .zero
  intrinsics := [400, 400, 320, 240]
  distortion := [1]

theorem aside_seen : aside.inCamera = ⟨1, 0, 1⟩ := by
  have still : (Quaternion.identity : Quaternion ℝ).normalize.toMat = Mat.identity := by
    rw [unit_normalize _ unit_identity]
    apply matrix_ext
    rw [rotation_matrix, matrix_identity]
    ext i j
    fin_cases i <;> fin_cases j <;> simp [Quaternion.identity]
  have body : aside.bodyMat = Mat.identity := still
  have camera : aside.cameraMat = Mat.identity := still
  apply space_ext
  rw [in_camera_get, body, camera, offset_get, matrix_mul, matrix_transpose, matrix_identity, transpose_one, Matrix.mul_one,
    one_mulVec]
  ext i
  fin_cases i <;> simp [aside, ReprojectionState.direction, Bearing.directionOf, Quaternion.identity, Vec3.get, Vec3.zero]

theorem aside_described : wideAngle.Describes aside ⟨400, 400, 320, 240⟩ (#v[1] : Vector ℝ 1) :=
  ⟨rfl, rfl, fun _ fixed => by cases fixed⟩

theorem aside_defined : aside.Defined := by
  have unit : (Quaternion.identity : Quaternion ℝ).norm = 1 := unit_identity
  exact ⟨one_pos, ⟨unit.symm ▸ one_pos, unit.symm ▸ one_pos⟩, unit.symm ▸ tolerance_below_one⟩

theorem aside_unit (block : Nat) (member : block ∈ wideAngle.rotationBlocks) (q : Quaternion ℝ)
    (held : (wideAngle.blocks aside)[block]? = some q.toList) : q.IsUnit := by
  have rotations : block = 1 ∨ block = 3 ∨ block = 5 := by simpa [rotationBlocks, wideAngle] using member
  have same : q = .identity := by
    obtain ⟨x, y, z, w⟩ := q
    rcases rotations with rfl | rfl | rfl <;> cases held <;> rfl
  rw [same]
  exact unit_identity

theorem aside_smooth : wideAngle.SmoothAt (wideAngle.blocks aside) := by
  intro s ps read held
  cases (wideAngle.read_defined aside _ _ aside_described aside_defined).symm.trans read
  cases held
  rw [aside_seen]
  have small : (FieldOfView.small : ℝ) < 1 := by
    rw [FieldOfView.small]
    norm_num
  refine ⟨?_, ?_, ?_⟩
  · change |(1 : ℝ)| ≠ _
    rw [abs_one]
    exact small.ne'
  · have radius : (imagePoint ⟨1, 0, 1⟩).norm = 1 := by simp [imagePoint, Vec2.norm, Vec2.normSq, Vec2.dot]
    rw [radius]
    exact small.ne'
  · have half : (1 : ℝ) / 2 < Real.pi / 2 := by linarith [Real.two_le_pi]
    exact (Real.cos_pos_of_mem_Ioo ⟨by linarith, half⟩).ne'

theorem reprojection_jacobians_exact (e : ReprojectionError ℝ) (parameters : List (List ℝ))
    (sizes : parameters.map List.length = e.blockSizes)
    (unit : ∀ block ∈ e.rotationBlocks, ∀ q : Quaternion ℝ, parameters[block]? = some q.toList → q.IsUnit)
    (smooth : e.SmoothAt parameters) (buffers out : Buffers ℝ) (slots : List (Option (List ℝ)))
    (asked : buffers.jacobians = some slots) (done : e.evaluate parameters buffers = .ok (true, out)) :
    ∃ filled, out.jacobians = some filled ∧ e.term.WritesExact e.updates parameters slots filled := by
  obtain ⟨s, k, ps, described, rfl⟩ := e.blocks_of_sizes parameters sizes
  obtain ⟨defined, front, filled, written, fills⟩ := e.evaluate_filled s k ps described buffers out slots asked done
  have parametersRead : e.camera.distortion.withParameters s.distortion = .ok ps := by
    rw [described.distortion]
    exact with_parameters_ok ⟨e.camera.distortion.kind, ps⟩ ps
  have regular : e.Regular s k ps := ⟨described, defined, front, smooth s ps (e.read_defined s k ps described defined) parametersRead⟩
  exact ⟨filled, written, e.filled_exact s k ps regular (e.unit_blocks s unit) slots filled fills⟩

theorem reprojection_jacobians_wide_angle :
    ∃ out filled, wideAngle.evaluate (wideAngle.blocks aside)
        (Buffers.masked 2 wideAngle.blockSizes (List.replicate 9 true)) = .ok (true, out) ∧
      out.jacobians = some filled ∧
      wideAngle.term.WritesExact wideAngle.updates (wideAngle.blocks aside)
        ([6, 8, 2, 8, 6, 8, 6, 8, 2].map fun cells => some (List.replicate cells 0)) filled := by
  have front : 0 < aside.inCamera.z := by
    rw [aside_seen]
    exact one_pos
  obtain ⟨out, done⟩ := wideAngle.evaluate_fits aside _ _ aside_described aside_defined front
    (Buffers.masked 2 wideAngle.blockSizes (List.replicate 9 true)) (masked_fits wideAngle.term _)
  obtain ⟨filled, written, exact⟩ := reprojection_jacobians_exact wideAngle (wideAngle.blocks aside) rfl aside_unit
    aside_smooth _ out _ rfl done
  exact ⟨out, filled, done, written, exact⟩

end ReprojectionError

end LandmarkMap
