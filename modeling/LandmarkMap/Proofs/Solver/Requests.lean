import LandmarkMap.Proofs.Solver.PosePrior
import LandmarkMap.Proofs.Solver.Reprojection

set_option autoImplicit false

namespace LandmarkMap

variable {α : Type}

-- What the parameters alone determine: the residuals and the Jacobian of each block.
structure CostTerm.Answer (t : CostTerm α) where
  residuals : Vector α t.residualCount
  jacobian : (block : Fin t.blockSizes.length) → Mat t.residualCount (t.blockSizes.get block) α

-- What is left in the buffers once an answer is written: the residuals in front, the matrix of its
-- block in each slot that was asked for, and all else as it was.
structure CostTerm.Answer.WrittenTo {t : CostTerm α} (answer : t.Answer) (before after : Buffers α) : Prop where
  residuals : after.residuals = answer.residuals.toList ++ before.residuals.drop t.residualCount
  unasked : before.jacobians = none → after.jacobians = none
  asked : ∀ slots, before.jacobians = some slots → ∃ out, after.jacobians = some out ∧ out.length = slots.length ∧
    (∀ block : Nat, slots[block]? = some none → out[block]? = some none) ∧
    (∀ (block : Fin t.blockSizes.length) buffer, slots[block.val]? = some (some buffer) →
      out[block.val]? = some (some (answer.jacobian block).entries)) ∧
    ∀ block : Nat, t.blockSizes.length ≤ block → out[block]? = slots[block]?

-- The term answers alike whatever it is asked for, and a refusal leaves the buffers as they were.
def CostTerm.AnswersAlike (t : CostTerm α) : Prop :=
  ∀ parameters : List (List α), parameters.map List.length = t.blockSizes →
    (∀ buffers, t.Fits buffers → t.evaluate parameters buffers = .ok (false, buffers)) ∨
      ∃ answer : t.Answer, ∀ buffers, t.Fits buffers →
        ∃ after, t.evaluate parameters buffers = .ok (true, after) ∧ answer.WrittenTo buffers after

theorem answer_written (t : CostTerm α) (jacobians : List (BlockJacobian t.residualCount α)) (listed : t.Lists jacobians)
    (residuals : Vector α t.residualCount) :
    ∃ answer : t.Answer, ∀ buffers, t.Fits buffers →
      ∃ after, answerWith residuals.toList jacobians buffers = .ok (true, after) ∧ answer.WrittenTo buffers after := by
  choose jacobian source member position written using listed_matrix t jacobians listed
  refine ⟨⟨residuals, jacobian⟩, fun buffers fits => ?_⟩
  have length : residuals.toList.length = t.residualCount := Vector.length_toList
  have room := length.trans_le fits.residuals
  have front : Block.writeFront residuals.toList buffers.residuals =
      .ok (residuals.toList ++ buffers.residuals.drop t.residualCount) := by
    rw [Block.writeFront, if_pos room, length]
  have distinct : (jacobians.map (·.block)).Nodup := listed_blocks t jacobians listed ▸ List.nodup_range
  rw [answerWith, front, ok_bind]
  cases asked : buffers.jacobians with
  | none => exact ⟨_, rfl, rfl, fun _ => rfl, fun _ some => (by cases asked.symm.trans some)⟩
  | some slots =>
      obtain ⟨out, filled⟩ := listed_fit t jacobians listed buffers fits slots asked
      refine ⟨_, (bind_ok _ _ _).mpr ⟨out, filled, rfl⟩, rfl, fun none => (by cases asked.symm.trans none), fun _ same => ?_⟩
      cases asked.symm.trans same
      refine ⟨out, rfl, fill_all_length _ _ _ filled, fun block empty => fill_all_skips _ _ _ block empty filled, ?_, ?_⟩
      · intro block buffer wanted
        rw [← position block] at wanted
        have entries := fill_all_written jacobians slots out distinct filled (source block) (member block) buffer wanted
        rwa [position block, written block] at entries
      · intro block beyond
        refine fill_all_other jacobians slots out block (fun j there same => ?_) filled
        have declared := listed_member t jacobians listed j there
        rw [same, List.getElem?_eq_none beyond] at declared
        cases declared

theorem alike_evaluates (t : CostTerm α) (alike : t.AnswersAlike) (parameters : List (List α))
    (sizes : parameters.map List.length = t.blockSizes) (buffers : Buffers α) (fits : t.Fits buffers) :
    ∃ outcome, t.evaluate parameters buffers = .ok outcome := by
  rcases alike parameters sizes with refused | ⟨_, answered⟩
  · exact ⟨_, refused buffers fits⟩
  · obtain ⟨_, done, _⟩ := answered buffers fits
    exact ⟨_, done⟩

-- Whether and what the term writes is settled before it looks at the buffers.
def CostTerm.Settles (t : CostTerm α) (parameters : List (List α)) : Prop :=
  (∀ buffers, t.evaluate parameters buffers = .ok (false, buffers)) ∨
    ∃ (residuals : Vector α t.residualCount) (jacobians : List (BlockJacobian t.residualCount α)), t.Lists jacobians ∧
      ∀ buffers, t.evaluate parameters buffers = answerWith residuals.toList jacobians buffers

theorem settled_answers_alike (t : CostTerm α)
    (settles : ∀ parameters, parameters.map List.length = t.blockSizes → t.Settles parameters) : t.AnswersAlike := by
  intro parameters sizes
  rcases settles parameters sizes with refused | ⟨residuals, jacobians, listed, evaluates⟩
  · exact .inl fun buffers _ => refused buffers
  · right
    obtain ⟨answer, written⟩ := answer_written t jacobians listed residuals
    refine ⟨answer, fun buffers fits => ?_⟩
    rw [evaluates buffers]
    exact written buffers fits

variable [Scalar α]

section Prior

variable (prior : PosePrior α) (q : Quaternion α) (p : Vec3 α) (buffers : Buffers α)

theorem prior_refuses (infinite : (q.isFinite && p.isFinite) = false) :
    prior.evaluate [q.toList, p.toList] buffers = .ok (false, buffers) := by
  have first : (fetch [q.toList, p.toList] 0 : Except (Fault α) _) = .ok q.toList := rfl
  have second : (fetch [q.toList, p.toList] 1 : Except (Fault α) _) = .ok p.toList := rfl
  simp only [PosePrior.evaluate, first, second, quaternion_block, vector_block, ok_bind, if_pos infinite]
  rfl

theorem prior_answers (finite : ¬ (q.isFinite && p.isFinite) = false) :
    prior.evaluate [q.toList, p.toList] buffers = answerWith (prior.residual q p).toList (prior.jacobians q) buffers := by
  have first : (fetch [q.toList, p.toList] 0 : Except (Fault α) _) = .ok q.toList := rfl
  have second : (fetch [q.toList, p.toList] 1 : Except (Fault α) _) = .ok p.toList := rfl
  simp only [PosePrior.evaluate, first, second, quaternion_block, vector_block, ok_bind, if_neg finite, answerWith,
    PosePrior.jacobians, fillAll, List.foldlM_cons, List.foldlM_nil, bind_assoc, pure_bind]
  cases buffers.jacobians <;> rfl

end Prior

theorem PosePrior.settles (prior : PosePrior α) (parameters : List (List α))
    (sizes : parameters.map List.length = prior.term.blockSizes) : prior.term.Settles parameters := by
  obtain ⟨q, p, rfl⟩ := pose_cells parameters sizes
  by_cases finite : (q.isFinite && p.isFinite) = false
  · exact .inl fun buffers => prior_refuses prior q p buffers finite
  · exact .inr ⟨prior.residual q p, prior.jacobians q, rfl, fun buffers => prior_answers prior q p buffers finite⟩

namespace ReprojectionError

theorem settles (e : ReprojectionError α) (parameters : List (List α)) (sizes : parameters.map List.length = e.blockSizes) :
    e.term.Settles parameters := by
  obtain ⟨s, holds, rfl⟩ := e.held_of_sizes parameters sizes
  rcases e.read_settled s holds with unread | read
  · exact .inl fun buffers => e.evaluate_unread _ buffers unread
  · obtain ⟨projection, projected, derived⟩ := sized_projection e.camera _ _ s.inCamera holds.intrinsics holds.distortion
    cases seen : projection.outcome.isValid with
    | false => exact .inl fun buffers => e.evaluate_unseen _ buffers s read projection projected seen
    | true =>
        obtain ⟨derivatives, shown⟩ := derived seen
        let error := (projection.keypoint - e.measurement).divide e.pixelSigma
        exact .inr ⟨#v[error.x, error.y], e.jacobians s derivatives, e.jacobian_sizes s derivatives,
          fun buffers => e.evaluate_seen _ buffers s read projection projected seen derivatives shown⟩

end ReprojectionError

-- No call on parameters of the declared sizes faults.
theorem ReprojectionError.sized_evaluates (e : ReprojectionError α) (parameters : List (List α))
    (sizes : parameters.map List.length = e.blockSizes) (buffers : Buffers α) (fits : e.term.Fits buffers) :
    ∃ outcome, e.evaluate parameters buffers = .ok outcome :=
  alike_evaluates e.term (settled_answers_alike _ e.settles) parameters sizes buffers fits

theorem evaluation_answers_alike :
    (∀ prior : PosePrior α, prior.term.AnswersAlike) ∧ ∀ e : ReprojectionError α, e.term.AnswersAlike :=
  ⟨fun prior => settled_answers_alike _ prior.settles, fun e => settled_answers_alike _ e.settles⟩

-- One request tells how all of them are answered.
theorem one_request_decides (t : CostTerm α) (alike : t.AnswersAlike) (parameters : List (List α))
    (sizes : parameters.map List.length = t.blockSizes) :
    ((t.evaluate parameters (.masked t.residualCount t.blockSizes [])).toOption.map Prod.fst = some true →
      ∃ answer : t.Answer, ∀ buffers, t.Fits buffers →
        ∃ after, t.evaluate parameters buffers = .ok (true, after) ∧ answer.WrittenTo buffers after) ∧
      ((t.evaluate parameters (.masked t.residualCount t.blockSizes [])).toOption.map Prod.fst = some false →
        ∀ buffers, t.Fits buffers → t.evaluate parameters buffers = .ok (false, buffers)) := by
  rcases alike parameters sizes with refused | answered
  · refine ⟨fun accepted => ?_, fun _ => refused⟩
    rw [refused _ (masked_fits t [])] at accepted
    cases accepted
  · refine ⟨fun _ => answered, fun rejected => ?_⟩
    obtain ⟨answer, written⟩ := answered
    obtain ⟨after, done, _⟩ := written _ (masked_fits t [])
    rw [done] at rejected
    cases rejected

-- A camera that looks along the third axis of its body, and a landmark one unit along the third axis of the mission.
def facingCamera : ReprojectionError Float where
  measurement := ⟨400, 250⟩
  pixelSigma := 2
  positive := by decide +kernel
  camera := plainCamera
  extrinsics := .fixed Pose.identity

def facingBlocks (body : Quaternion Float) : List (List Float) :=
  [[0, 0, 0], [0, 0, 0, 1], [1], body.toList, [0, 0, 0], [400, 400, 320, 240]]

def originPrior : PosePrior Float := ⟨Quaternion.identity, Vec3.zero, Mat.identity⟩

-- The body looks at the landmark, or is turned away from it; a position is a number, or is not.
theorem turned_away_refused :
    (∃ answer : facingCamera.term.Answer, ∀ buffers, facingCamera.term.Fits buffers →
        ∃ after, facingCamera.evaluate (facingBlocks Quaternion.identity) buffers = .ok (true, after) ∧
          answer.WrittenTo buffers after) ∧
      (∀ buffers, facingCamera.term.Fits buffers →
        facingCamera.evaluate (facingBlocks ⟨1, 0, 0, 0⟩) buffers = .ok (false, buffers)) ∧
      (∃ answer : originPrior.term.Answer, ∀ buffers, originPrior.term.Fits buffers →
        ∃ after, originPrior.evaluate [[0, 0, 0, 1], [1, 2, 3]] buffers = .ok (true, after) ∧
          answer.WrittenTo buffers after) ∧
      ∀ buffers, originPrior.term.Fits buffers →
        originPrior.evaluate [[0, 0, 0, 1], [1, 2, 0 / 0]] buffers = .ok (false, buffers) := by
  obtain ⟨priors, cameras⟩ := evaluation_answers_alike (α := Float)
  refine ⟨(one_request_decides _ (cameras facingCamera) _ rfl).1 ?seen,
    (one_request_decides _ (cameras facingCamera) _ rfl).2 ?unseen,
    (one_request_decides _ (priors originPrior) _ rfl).1 ?finite,
    (one_request_decides _ (priors originPrior) _ rfl).2 ?unnumbered⟩
  all_goals decide +kernel

end LandmarkMap
