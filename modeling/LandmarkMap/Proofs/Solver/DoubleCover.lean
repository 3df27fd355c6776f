import LandmarkMap.Proofs.Solver.Agreement
import LandmarkMap.Proofs.Solver.ReprojectionJacobians
import LandmarkMap.Proofs.Solver.Requests

set_option autoImplicit false

namespace LandmarkMap

variable {α : Type}

section Aside

variable {rows m n : Nat} (slots : List (Option (List α))) (block other : Nat)

theorem fill_aside (a : Mat m n α) (change : Option (List α) → Option (List α)) (apart : block ≠ other) :
    fillSlot (slots.modify other change) block a = (·.modify other change) <$> fillSlot slots block a := by
  rw [fillSlot, fillSlot, fetch, fetch, List.getElem?_modify_ne _ _ apart.symm]
  cases slots[block]? with
  | none => rfl
  | some slot =>
      cases slot with
      | none => rfl
      | some buffer =>
          by_cases fits : buffer.length = m * n
          · simp only [ok_bind, write_row_major_ok _ buffer fits, List.set_eq_modify]
            exact congrArg Except.ok (List.modify_modify_ne _ _ _ apart.symm)
          · simp only [ok_bind, write_row_major_refused _ buffer fits]
            rfl

theorem fill_all_aside (jacobians : List (BlockJacobian rows α)) (change : Option (List α) → Option (List α))
    (apart : ∀ j ∈ jacobians, j.block ≠ other) :
    fillAll (slots.modify other change) jacobians = (·.modify other change) <$> fillAll slots jacobians := by
  induction jacobians generalizing slots with
  | nil => rfl
  | cons first rest ih =>
      have later := fun slots => ih slots fun j member => apart j (List.mem_cons_of_mem first member)
      rw [fillAll, fillAll, List.foldlM_cons, List.foldlM_cons, fill_aside _ _ _ _ _ (apart first List.mem_cons_self),
        bind_map_left, map_bind]
      exact congrArg _ (funext later)

end Aside

variable [Scalar α]

def opposite (values : List α) : List α := values.map Neg.neg

section Filling

variable {rows m n : Nat} (slots : List (Option (List α))) (block : Nat)

theorem fill_opposite (a : Mat m n α) :
    fillSlot slots block (-a) = (·.modify block (Option.map opposite)) <$> fillSlot slots block a := by
  rw [fillSlot, fillSlot, fetch]
  cases held : slots[block]? with
  | none => rfl
  | some slot =>
      cases slot with
      | none =>
          have same : slots.modify block (Option.map opposite) = slots := by
            apply List.ext_getElem?
            intro i
            by_cases here : block = i
            · rw [← here, List.getElem?_modify_eq, held]
              rfl
            · rw [List.getElem?_modify_ne _ _ here]
          exact (congrArg Except.ok same).symm
      | some buffer =>
          by_cases fits : buffer.length = m * n
          · simp only [ok_bind, write_row_major_ok _ buffer fits, List.set_eq_modify, opposite_entries]
            exact congrArg Except.ok (List.modify_modify_eq (fun _ => some a.entries) (Option.map opposite) block slots).symm
          · simp only [ok_bind, write_row_major_refused _ buffer fits]
            rfl

def BlockJacobian.oppose (block : Nat) (j : BlockJacobian rows α) : BlockJacobian rows α :=
  if j.block = block then ⟨j.block, j.size, -j.matrix⟩ else j

theorem opposed_aside (jacobians : List (BlockJacobian rows α)) (apart : ∀ j ∈ jacobians, j.block ≠ block) :
    jacobians.map (·.oppose block) = jacobians :=
  (List.map_congr_left fun j member => if_neg (apart j member)).trans (List.map_id _)

theorem fill_all_opposite (jacobians : List (BlockJacobian rows α)) (distinct : (jacobians.map (·.block)).Nodup)
    (member : block ∈ jacobians.map (·.block)) :
    fillAll slots (jacobians.map (·.oppose block)) =
      (·.modify block (Option.map opposite)) <$> fillAll slots jacobians := by
  induction jacobians generalizing slots with
  | nil => cases member
  | cons first rest ih =>
      obtain ⟨fresh, distinct⟩ := List.nodup_cons.mp distinct
      rw [List.map_cons, fillAll, fillAll, List.foldlM_cons, List.foldlM_cons, map_bind]
      by_cases here : first.block = block
      · have apart : ∀ j ∈ rest, j.block ≠ block := fun j there same =>
          fresh (List.mem_map.mpr ⟨j, there, same.trans here.symm⟩)
        have turned : first.oppose block = ⟨first.block, first.size, -first.matrix⟩ := if_pos here
        rw [turned, opposed_aside block rest apart, fill_opposite, bind_map_left, here]
        exact congrArg _ (funext fun slots => fill_all_aside slots block rest _ apart)
      · have later := (List.mem_cons.mp member).resolve_left (Ne.symm here)
        have kept : first.oppose block = first := if_neg here
        rw [kept]
        exact congrArg _ (funext fun slots => ih slots distinct later)

end Filling

-- What an evaluation leaves in the buffers, with the Jacobian of one block replaced by its opposite.
def opposeAnswer (block : Nat) (answer : Bool × Buffers α) : Bool × Buffers α :=
  (answer.1, if answer.1 then ⟨answer.2.residuals, answer.2.jacobians.map (·.modify block (Option.map opposite))⟩ else answer.2)

theorem answer_opposite {rows : Nat} (residuals : List α) (jacobians : List (BlockJacobian rows α)) (block : Nat)
    (distinct : (jacobians.map (·.block)).Nodup) (member : block ∈ jacobians.map (·.block)) (buffers : Buffers α) :
    answerWith residuals (jacobians.map (·.oppose block)) buffers =
      opposeAnswer block <$> answerWith residuals jacobians buffers := by
  rw [answerWith, answerWith, map_bind]
  refine congrArg _ (funext fun written => ?_)
  cases buffers.jacobians with
  | none => rfl
  | some slots =>
      dsimp only
      rw [fill_all_opposite slots block jacobians distinct member, bind_map_left, map_bind]
      rfl

-- What a solver makes of a Jacobian written for the block `x`: its product with that of the update.
def Parameterization.Tangent (p : Parameterization α) (rows : Nat) (x written : List α) (product : Mat rows p.localSize α) :
    Prop :=
  ∃ (ambient : Mat rows p.globalSize α) (update : List α) (tangent : Mat p.globalSize p.localSize α),
    Mat.ofRowMajor rows p.globalSize written = .ok ambient ∧
    (∀ buffer : List α, buffer.length = p.globalSize * p.localSize → p.jacobian x buffer = .ok (true, update)) ∧
    Mat.ofRowMajor p.globalSize p.localSize update = .ok tangent ∧ product = ambient * tangent

-- A block and its opposite are answered alike but for the signs of zeros. Only the block's own Jacobian is replaced
-- by its opposite, which a solver that moves along the tangent space does not notice.
structure CostTerm.CoversTwice (t : CostTerm α) (p : Parameterization α) (parameters : List (List α)) (block : Nat) :
    Prop where
  answers : ∀ buffers, Agree SameAnswer (t.evaluate (parameters.modify block opposite) buffers)
    (opposeAnswer block <$> t.evaluate parameters buffers)
  tangent : ∀ x, parameters[block]? = some x → ∀ written turned : List α,
    written.length = t.residualCount * p.globalSize → SameList turned (opposite written) →
      ∃ product again, p.Tangent t.residualCount x written product ∧
        p.Tangent t.residualCount (opposite x) turned again ∧ SameMat again product

theorem opposite_read {m n : Nat} (written turned : List α) (size : written.length = m * n)
    (same : SameList turned (opposite written)) :
    ∃ ambient other : Mat m n α, Mat.ofRowMajor m n written = .ok ambient ∧ Mat.ofRowMajor m n turned = .ok other ∧
      SameMat other (-ambient) := by
  obtain ⟨ambient, read, entries⟩ := row_major_read m n written size
  have length : turned.length = m * n := same.length_eq.trans ((List.length_map _).trans size)
  obtain ⟨other, again, cells⟩ := row_major_read m n turned length
  refine ⟨ambient, other, read, again, same_from_entries ?_⟩
  rw [opposite_entries, entries, cells]
  exact same

namespace ReprojectionError

variable (e : ReprojectionError α) (s other : ReprojectionState α) (block : Nat)

-- What a state and the one with a block replaced by its opposite have in common.
structure Opposes : Prop where
  holds : e.Holds other
  blocks : (e.blocks s).modify block opposite = e.blocks other
  read : e.readState? (e.blocks other) = Option.map (fun _ => other) <$> e.readState? (e.blocks s)
  intrinsics : other.intrinsics = s.intrinsics
  distortion : other.distortion = s.distortion
  inCamera : other.inCamera = s.inCamera
  jacobians : ∀ p : ProjectionJacobians e.camera.distortion.kind.count α,
    List.Forall₂ SameJacobian (e.jacobians other p) ((e.jacobians s p).map (·.oppose block))

theorem opposed_answers (holds : e.Holds s) (opposes : e.Opposes s other block) (listed : block < e.updates.length)
    (buffers : Buffers α) :
    Agree SameAnswer (e.evaluate ((e.blocks s).modify block opposite) buffers)
      (opposeAnswer block <$> e.evaluate (e.blocks s) buffers) := by
  have reads := opposes.read
  rw [opposes.blocks]
  rcases e.read_settled s holds with unread | read
  · rw [unread] at reads
    rw [e.evaluate_unread _ buffers unread, e.evaluate_unread _ buffers reads]
    exact agree_refl same_answer_refl _
  · rw [read] at reads
    obtain ⟨projection, projected, derived⟩ := sized_projection e.camera _ _ s.inCamera holds.intrinsics holds.distortion
    have again := projected
    rw [← opposes.intrinsics, ← opposes.distortion, ← opposes.inCamera] at again
    cases seen : projection.outcome.isValid with
    | false =>
        rw [e.evaluate_unseen _ buffers s read projection projected seen,
          e.evaluate_unseen _ buffers other reads projection again seen]
        exact agree_refl same_answer_refl _
    | true =>
        obtain ⟨derivatives, shown⟩ := derived seen
        have blocks := e.jacobian_blocks s derivatives
        rw [e.evaluate_seen _ buffers s read projection projected seen derivatives shown,
          e.evaluate_seen _ buffers other reads projection again seen derivatives shown,
          ← answer_opposite _ _ block (blocks ▸ List.nodup_range) (blocks ▸ List.mem_range.mpr listed) buffers]
        exact same_answers (same_list_refl _) (opposes.jacobians derivatives) buffers

end ReprojectionError

variable [SignedScalar α]

section Tangents

variable (rows : Nat) (q : Quaternion α) (written turned : List α) (size : written.length = rows * 4)
  (same : SameList turned (opposite written))

theorem same_opposites {m k n : Nat} {a b : Mat m k α} {c d : Mat k n α} (first : SameMat a (-b)) (second : SameMat c (-d)) :
    SameMat (a * c) (b * d) := by
  rw [← opposites_mul b d]
  exact same_mul first second

include size same

theorem quaternion_tangent :
    ∃ product again, Parameterization.quaternion.Tangent rows q.toList written product ∧
      Parameterization.quaternion.Tangent rows (opposite q.toList) turned again ∧ SameMat again product := by
  obtain ⟨ambient, other, reads, again, opposed⟩ := opposite_read (n := 4) written turned size same
  exact ⟨_, _, ⟨ambient, _, _, reads, quaternion_jacobian q, entries_read _, rfl⟩,
    ⟨other, _, _, again, quaternion_jacobian (-q), entries_read _, rfl⟩,
    same_opposites opposed (opposite_plus_jacobian q)⟩

theorem bearing_tangent :
    ∃ product again, Parameterization.bearing.Tangent rows q.toList written product ∧
      Parameterization.bearing.Tangent rows (opposite q.toList) turned again ∧ SameMat again product := by
  obtain ⟨ambient, other, reads, again, opposed⟩ := opposite_read (n := 4) written turned size same
  have update := opposite_bearing_jacobian q.normalize
  rw [← opposite_normalize] at update
  exact ⟨_, _, ⟨ambient, _, _, reads, block_bearing_jacobian q, entries_read _, rfl⟩,
    ⟨other, _, _, again, block_bearing_jacobian (-q), entries_read _, rfl⟩, same_opposites opposed update⟩

end Tangents

section Priors

variable (prior : PosePrior α) (q : Quaternion α) (p : Vec3 α)
  (error : SameQuaternion (prior.rotationError (-q)) (prior.rotationError q))

include error

theorem prior_residual_same : SameList (prior.residual (-q) p).toList (prior.residual q p).toList := by
  obtain ⟨⟨x, y, z⟩, _⟩ := error
  have twice : ∀ a b : α, Same a b → Same (a * 2.0) (b * 2.0) := fun a b same =>
    SignedScalar.product _ _ _ _ same (same_refl 2.0)
  have deviation : ∀ l : Fin 6, Same (prior.deviation (-q) p)[l] (prior.deviation q p)[l] := by
    intro l
    fin_cases l
    · exact twice _ _ x
    · exact twice _ _ y
    · exact twice _ _ z
    all_goals exact same_refl _
  rw [PosePrior.residual, PosePrior.residual, Mat.mulVec, Mat.mulVec, Vector.toList_ofFn, Vector.toList_ofFn]
  refine List.forall₂_iff_get.mpr ⟨by rw [List.length_ofFn, List.length_ofFn], fun i _ _ => ?_⟩
  rw [List.get_ofFn, List.get_ofFn]
  exact same_sum_fin 6 fun l => SignedScalar.product _ _ _ _ (same_refl _) (deviation l)

theorem prior_jacobians_opposite :
    List.Forall₂ SameJacobian (prior.jacobians (-q)) ((prior.jacobians q).map (·.oppose 0)) := by
  obtain ⟨vector, scalar⟩ := error
  have tangent : SameMat (Mat.identity.scale (prior.rotationError (-q)).w - (prior.rotationError (-q)).imag.skew)
      (Mat.identity.scale (prior.rotationError q).w - (prior.rotationError q).imag.skew) := by
    refine same_difference (fun i j => ?_) (same_skew vector)
    rw [get_scale, get_scale]
    exact SignedScalar.product _ _ _ _ (same_refl _) scalar
  have rotation : SameMat (prior.rotationJacobian (-q)) (-prior.rotationJacobian q) := by
    rw [PosePrior.rotationJacobian, PosePrior.rotationJacobian]
    refine same_mat_trans (same_mul (same_mat_refl _) ?_) (mul_opposite _ _)
    exact same_mat_trans (same_lift (-q) (same_stack tangent _)) (opposite_lift q _)
  exact .cons (.of 0 rotation) (.cons (same_jacobian_refl _) .nil)

end Priors

-- The prior picks of the two quotients the one with the scalar part on the positive side.
theorem prior_covers (prior : PosePrior α) (q : Quaternion α) (p : Vec3 α)
    (apart : 0 < (q * prior.rotation.conj).w ∨ (q * prior.rotation.conj).w < 0) :
    prior.term.CoversTwice .quaternion [q.toList, p.toList] 0 := by
  have error : SameQuaternion (prior.rotationError (-q)) (prior.rotationError q) :=
    opposite_positive_product q prior.rotation.conj apart
  refine ⟨fun buffers => ?_, fun x held written turned size same => ?_⟩
  · change Agree SameAnswer (prior.evaluate [(-q).toList, p.toList] buffers)
      (opposeAnswer 0 <$> prior.evaluate [q.toList, p.toList] buffers)
    by_cases finite : (q.isFinite && p.isFinite) = false
    · rw [prior_refuses prior q p buffers finite, prior_refuses prior (-q) p buffers (by rwa [opposite_finite])]
      exact agree_refl same_answer_refl _
    · rw [prior_answers prior q p buffers finite, prior_answers prior (-q) p buffers (by rwa [opposite_finite]),
        ← answer_opposite _ (prior.jacobians q) 0 (by decide : [0, 1].Nodup) List.mem_cons_self buffers]
      exact same_answers (prior_residual_same prior q p error) (prior_jacobians_opposite prior q error) buffers
  · cases held
    exact quaternion_tangent 6 q written turned size same

namespace ReprojectionError

variable (e : ReprojectionError α) (s other : ReprojectionState α) (block : Nat)

theorem opposite_finite_blocks (parameters : List (List α)) :
    (parameters.modify block opposite).all (·.all Scalar.isFinite) = parameters.all (·.all Scalar.isFinite) := by
  induction parameters generalizing block with
  | nil => rw [List.modify_nil]
  | cons first rest ih =>
      cases block with
      | zero =>
          have same : (opposite first).all Scalar.isFinite = first.all Scalar.isFinite := by
            rw [opposite, List.all_map]
            exact congrArg _ (funext SignedScalar.finite)
          rw [List.modify_zero_cons, List.all_cons, List.all_cons, same]
      | succ block => rw [List.modify_succ_cons, List.all_cons, List.all_cons, ih]

theorem opposite_read_state (holds : e.Holds s) (kept : e.Holds other)
    (blocks : (e.blocks s).modify block opposite = e.blocks other) (depth : other.inverseDepth = s.inverseDepth)
    (body : other.bodyRotation.norm = s.bodyRotation.norm)
    (camera : other.cameraRotation.norm = s.cameraRotation.norm) (bearing : other.bearing.norm = s.bearing.norm) :
    e.readState? (e.blocks other) = Option.map (fun _ => other) <$> e.readState? (e.blocks s) := by
  rw [e.read_blocks other kept, e.read_blocks s holds, ← blocks, opposite_finite_blocks, depth, body, camera, bearing]
  split
  · rfl
  split
  · rfl
  split
  · rfl
  split
  · rfl
  rfl

theorem bearing_opposes (holds : e.Holds s) : e.Opposes s { s with bearing := -s.bearing } 1 := by
  have blocks : (e.blocks s).modify 1 opposite = e.blocks { s with bearing := -s.bearing } := rfl
  have kept : e.Holds { s with bearing := -s.bearing } := ⟨holds.intrinsics, holds.distortion, holds.mounted⟩
  have direction : ({ s with bearing := -s.bearing } : ReprojectionState α).direction = s.direction :=
    opposite_direction s.bearing
  have offset : ({ s with bearing := -s.bearing } : ReprojectionState α).offset = s.offset := by
    rw [ReprojectionState.offset, direction, ReprojectionState.offset]
  have inCamera : ({ s with bearing := -s.bearing } : ReprojectionState α).inCamera = s.inCamera := by
    rw [ReprojectionState.inCamera, ReprojectionState.inBody, offset]
    rfl
  refine ⟨kept, blocks, e.opposite_read_state s _ 1 holds kept blocks rfl rfl rfl (opposite_norm s.bearing), rfl, rfl,
    inCamera, ?_⟩
  intro p
  have own : SameMat (e.bearingJacobian { s with bearing := -s.bearing } p) (-e.bearingJacobian s p) := by
    change SameMat ((e.byMissionPoint s p * Bearing.directionJacobian (-s.bearing)).divide s.inverseDepth) _
    rw [opposite_direction_jacobian, bearingJacobian, ← opposite_divide]
    exact same_divide (mul_opposite _ _) s.inverseDepth
  have depth : e.inverseDepthJacobian { s with bearing := -s.bearing } p = e.inverseDepthJacobian s p := by
    rw [inverseDepthJacobian, direction]
    rfl
  have body : e.bodyRotationJacobian { s with bearing := -s.bearing } p = e.bodyRotationJacobian s p := by
    rw [bodyRotationJacobian, offset]
    rfl
  have camera : e.cameraRotationJacobian { s with bearing := -s.bearing } p = e.cameraRotationJacobian s p := by
    rw [cameraRotationJacobian, ReprojectionState.inBody, offset]
    rfl
  rw [jacobians, jacobians, depth, body, camera, distortion_block, intrinsicsBlock]
  by_cases some : 0 < e.camera.distortion.kind.count
  · cases e.extrinsics <;> simp only [if_pos some] <;>
      exact .cons (same_jacobian_refl _) (.cons (.of 1 own) (same_jacobians_refl _))
  · cases e.extrinsics <;> simp only [if_neg some] <;>
      exact .cons (same_jacobian_refl _) (.cons (.of 1 own) (same_jacobians_refl _))

theorem body_rotation_opposes (holds : e.Holds s) : e.Opposes s { s with bodyRotation := -s.bodyRotation } 3 := by
  have blocks : (e.blocks s).modify 3 opposite = e.blocks { s with bodyRotation := -s.bodyRotation } := rfl
  have kept : e.Holds { s with bodyRotation := -s.bodyRotation } := ⟨holds.intrinsics, holds.distortion, holds.mounted⟩
  have body : ({ s with bodyRotation := -s.bodyRotation } : ReprojectionState α).bodyMat = s.bodyMat :=
    opposite_normalized_rotation s.bodyRotation
  have inBody : ({ s with bodyRotation := -s.bodyRotation } : ReprojectionState α).inBody = s.inBody := by
    rw [ReprojectionState.inBody, body]
    rfl
  have inCamera : ({ s with bodyRotation := -s.bodyRotation } : ReprojectionState α).inCamera = s.inCamera := by
    rw [ReprojectionState.inCamera, inBody]
    rfl
  refine ⟨kept, blocks, e.opposite_read_state s _ 3 holds kept blocks rfl (opposite_norm s.bodyRotation) rfl rfl, rfl, rfl,
    inCamera, ?_⟩
  intro p
  have point : e.byMissionPoint { s with bodyRotation := -s.bodyRotation } p = e.byMissionPoint s p := by
    rw [byMissionPoint, body]
    rfl
  have bearing : e.bearingJacobian { s with bodyRotation := -s.bodyRotation } p = e.bearingJacobian s p := by
    rw [bearingJacobian, point]
    rfl
  have depth : e.inverseDepthJacobian { s with bodyRotation := -s.bodyRotation } p = e.inverseDepthJacobian s p := by
    rw [inverseDepthJacobian, point]
    rfl
  have own : SameMat (e.bodyRotationJacobian { s with bodyRotation := -s.bodyRotation } p) (-e.bodyRotationJacobian s p) := by
    rw [bodyRotationJacobian, body]
    exact opposite_lift s.bodyRotation _
  have camera : e.cameraRotationJacobian { s with bodyRotation := -s.bodyRotation } p = e.cameraRotationJacobian s p := by
    rw [cameraRotationJacobian, inBody]
    rfl
  rw [jacobians, jacobians, point, bearing, depth, camera, distortion_block, intrinsicsBlock]
  by_cases some : 0 < e.camera.distortion.kind.count
  · cases e.extrinsics <;> simp only [if_pos some] <;>
      exact .cons (same_jacobian_refl _) (.cons (same_jacobian_refl _) (.cons (same_jacobian_refl _)
        (.cons (.of 3 own) (same_jacobians_refl _))))
  · cases e.extrinsics <;> simp only [if_neg some] <;>
      exact .cons (same_jacobian_refl _) (.cons (same_jacobian_refl _) (.cons (same_jacobian_refl _)
        (.cons (.of 3 own) (same_jacobians_refl _))))

theorem camera_rotation_opposes (holds : e.Holds s) (optimized : e.extrinsics = .optimized) :
    e.Opposes s { s with cameraRotation := -s.cameraRotation } 5 := by
  have blocks : (e.blocks s).modify 5 opposite = e.blocks { s with cameraRotation := -s.cameraRotation } := by
    rw [ReprojectionError.blocks, ReprojectionError.blocks, optimized]
    rfl
  have kept : e.Holds { s with cameraRotation := -s.cameraRotation } :=
    ⟨holds.intrinsics, holds.distortion, fun pose fixed => by cases optimized.symm.trans fixed⟩
  have camera : ({ s with cameraRotation := -s.cameraRotation } : ReprojectionState α).cameraMat = s.cameraMat :=
    opposite_normalized_rotation s.cameraRotation
  have inCamera : ({ s with cameraRotation := -s.cameraRotation } : ReprojectionState α).inCamera = s.inCamera := by
    rw [ReprojectionState.inCamera, camera]
    rfl
  refine ⟨kept, blocks, e.opposite_read_state s _ 5 holds kept blocks rfl rfl (opposite_norm s.cameraRotation) rfl, rfl, rfl,
    inCamera, ?_⟩
  intro p
  have point : e.byMissionPoint { s with cameraRotation := -s.cameraRotation } p = e.byMissionPoint s p := by
    rw [byMissionPoint, camera]
    rfl
  have bearing : e.bearingJacobian { s with cameraRotation := -s.cameraRotation } p = e.bearingJacobian s p := by
    rw [bearingJacobian, point]
    rfl
  have depth : e.inverseDepthJacobian { s with cameraRotation := -s.cameraRotation } p = e.inverseDepthJacobian s p := by
    rw [inverseDepthJacobian, point]
    rfl
  have body : e.bodyRotationJacobian { s with cameraRotation := -s.cameraRotation } p = e.bodyRotationJacobian s p := by
    rw [bodyRotationJacobian, camera]
    rfl
  have own : SameMat (e.cameraRotationJacobian { s with cameraRotation := -s.cameraRotation } p)
      (-e.cameraRotationJacobian s p) := by
    rw [cameraRotationJacobian, camera]
    exact opposite_lift s.cameraRotation _
  rw [jacobians, jacobians, point, bearing, depth, body, distortion_block, intrinsicsBlock, optimized]
  by_cases some : 0 < e.camera.distortion.kind.count
  · simp only [if_pos some]
    exact List.rel_append (List.rel_append (List.rel_append (same_jacobians_refl _)
      (.cons (.of 5 own) (same_jacobians_refl _))) (same_jacobians_refl _)) (same_jacobians_refl _)
  · simp only [if_neg some]
    exact List.rel_append (List.rel_append (List.rel_append (same_jacobians_refl _)
      (.cons (.of 5 own) (same_jacobians_refl _))) (same_jacobians_refl _)) (same_jacobians_refl _)

theorem rotation_covers (holds : e.Holds s) (member : block ∈ e.rotationBlocks) :
    ∃ p, e.updates[block]? = some p ∧ e.term.CoversTwice p (e.blocks s) block := by
  rw [rotationBlocks] at member
  rcases List.mem_append.mp member with fixed | free
  · rcases List.mem_cons.mp fixed with rfl | rest
    · refine ⟨.bearing, rfl, e.opposed_answers s _ 1 holds (e.bearing_opposes s holds) ?_,
        fun x held written turned size same => ?_⟩
      · simp [updates]
      · cases held
        exact bearing_tangent 2 s.bearing written turned size same
    · cases List.mem_singleton.mp rest
      refine ⟨.quaternion, rfl, e.opposed_answers s _ 3 holds (e.body_rotation_opposes s holds) ?_,
        fun x held written turned size same => ?_⟩
      · simp [updates]
      · cases held
        exact quaternion_tangent 2 s.bodyRotation written turned size same
  · cases optimized : e.extrinsics with
    | fixed pose =>
        rw [optimized] at free
        cases free
    | optimized =>
        rw [optimized] at free
        cases List.mem_singleton.mp free
        have update : e.updates[5]? = some .quaternion := by
          rw [updates, optimized]
          rfl
        refine ⟨.quaternion, update, e.opposed_answers s _ 5 holds (e.camera_rotation_opposes s holds optimized)
          (List.getElem?_eq_some_iff.mp update).1, fun x held written turned size same => ?_⟩
        rw [blocks, optimized] at held
        cases held
        exact quaternion_tangent 2 s.cameraRotation written turned size same

end ReprojectionError

theorem quaternion_double_cover :
    (∀ (e : ReprojectionError α) (parameters : List (List α)), parameters.map List.length = e.blockSizes →
      ∀ block ∈ e.rotationBlocks, ∃ p, e.updates[block]? = some p ∧ e.term.CoversTwice p parameters block) ∧
    ∀ (prior : PosePrior α) (q : Quaternion α) (p : Vec3 α),
      0 < (q * prior.rotation.conj).w ∨ (q * prior.rotation.conj).w < 0 → prior.term.CoversTwice .quaternion [q.toList, p.toList] 0 := by
  refine ⟨fun e parameters sizes block member => ?_, prior_covers⟩
  obtain ⟨s, holds, rfl⟩ := e.held_of_sizes parameters sizes
  exact e.rotation_covers s block holds member

-- A term in doubles whose camera is free on the body, and blocks for it.
def looseCamera : ReprojectionError Float := { facingCamera with extrinsics := .optimized }

def looseBlocks : List (List Float) :=
  [[1, 0, 0], [0, 0, 0, 1], [1], [0.6, 0, 0, 0.8], [0, 0, 0], [0, 0.6, 0, 0.8], [0, 0, 0.1], [400, 400, 320, 240]]

-- The rotation of the camera on the body, in exact and in rounded numbers, and a rotation whose quotient with that of
-- a prior has a negative scalar part.
theorem wide_angle_double_cover :
    (5 ∈ ReprojectionError.wideAngle.rotationBlocks ∧
      ∃ p, ReprojectionError.wideAngle.updates[5]? = some p ∧
        ReprojectionError.wideAngle.term.CoversTwice p (ReprojectionError.wideAngle.blocks ReprojectionError.aside) 5) ∧
    (looseBlocks.map List.length = looseCamera.blockSizes ∧ 5 ∈ looseCamera.rotationBlocks ∧
      ∃ p, looseCamera.updates[5]? = some p ∧ looseCamera.term.CoversTwice p looseBlocks 5) ∧
    ((⟨0.6, 0, 0, -0.8⟩ : Quaternion Float) * Quaternion.identity.conj).w < 0 ∧
      CostTerm.CoversTwice (PosePrior.term ⟨Quaternion.identity, Vec3.zero, Mat.identity⟩) .quaternion
        [(⟨0.6, 0, 0, -0.8⟩ : Quaternion Float).toList, (⟨1, 2, 3⟩ : Vec3 Float).toList] 0 := by
  have free : 5 ∈ ReprojectionError.wideAngle.rotationBlocks := by decide
  have loose : 5 ∈ looseCamera.rotationBlocks := by decide
  have below : ((⟨0.6, 0, 0, -0.8⟩ : Quaternion Float) * Quaternion.identity.conj).w < 0 := by decide +kernel
  obtain ⟨exact, _⟩ := quaternion_double_cover (α := ℝ)
  obtain ⟨rounded, priors⟩ := quaternion_double_cover (α := Float)
  exact ⟨⟨free, exact _ (ReprojectionError.wideAngle.blocks ReprojectionError.aside) rfl 5 free⟩,
    ⟨rfl, loose, rounded looseCamera looseBlocks rfl 5 loose⟩, below,
    priors ⟨Quaternion.identity, Vec3.zero, Mat.identity⟩ _ _ (.inr below)⟩

end LandmarkMap
