import LandmarkMap.Proofs.Solver.BufferSizes
import LandmarkMap.Proofs.Solver.Calls
import LandmarkMap.Solver.GradientCheck

set_option autoImplicit false

namespace LandmarkMap

theorem identity_slope (cols : Nat) (x : List ℝ) :
    (do
      let written ← accepted ((Parameterization.euclideanOf cols).jacobian x (List.replicate (cols * cols) 0))
      (Mat.ofRowMajor cols cols written : Except (Fault ℝ) _) : Except (Failure ℝ) (Mat cols cols ℝ)) =
      .ok (Mat.of fun i j => if i.val = j.val then 1 else 0) := by
  have diagonal : (Mat.of fun i j => if i.val = j.val then 1 else 0 : Mat cols cols ℝ) = Mat.identity := by
    apply Mat.ext_get
    intro i j
    simp [Mat.identity, Fin.ext_iff]
  rw [identity_jacobian cols x _ List.length_replicate, diagonal]
  exact congrArg (Except.mapError Failure.fault) (entries_read Mat.identity)

namespace GradientChecker

variable (c : GradientChecker ℝ)

structure KeepsSizes : Prop where
  term : c.term.KeepsSizes
  updates : ∀ p, some p ∈ c.parameterizations → p.KeepsSizes

-- How a block moves; an empty slot stands for addition.
noncomputable def update (block : Nat) : Parameterization ℝ :=
  (c.parameterization? block).getD (.euclideanOf (c.blockSize block))

-- The tangent vector of a step along one direction.
noncomputable def tangentStep (block k : Nat) (t : ℝ) : List ℝ := (List.replicate (c.localSize block) 0).set k t

-- All blocks, one of them moved by a step.
noncomputable def shift (parameters : List (List ℝ)) (block k : Nat) (t : ℝ) : Except (Fault ℝ) (Bool × List (List ℝ)) :=
  let x := parameters.getD block []
  Prod.map id (parameters.set block) <$> (c.update block).plus x (c.tangentStep block k t) (List.replicate x.length 0)

-- The residuals after a step.
noncomputable def residualsAlong (parameters : List (List ℝ)) (block k : Nat) (t : ℝ) : Except (Failure ℝ) (List ℝ) := do
  c.residualsAt (← accepted (c.shift parameters block k t))

noncomputable def updateCall (parameters : List (List ℝ)) (block : Nat) : Except (Fault ℝ) (Bool × List ℝ) :=
  let x := parameters.getD block []
  (c.update block).jacobian x (List.replicate (x.length * c.localSize block) 0)

noncomputable def plainCall (parameters : List (List ℝ)) : Except (Fault ℝ) (Bool × Buffers ℝ) :=
  c.term.evaluate parameters (Buffers.plain c.term.residualCount)

noncomputable def fullCall (parameters : List (List ℝ)) : Except (Fault ℝ) (Bool × Buffers ℝ) :=
  c.term.evaluate parameters
    (Buffers.masked c.term.residualCount c.term.blockSizes (c.term.blockSizes.map fun _ => true))

-- The steps on both sides of the start at which the residuals are measured.
noncomputable def steps : List ℝ :=
  let h := c.options.stepSize
  if c.options.richardson then [h, -h, h / 2, -(h / 2)] else [h, -h]

-- A step is an update and an evaluation there.
noncomputable def stepCalls (parameters : List (List ℝ)) (block k : Nat) (t : ℝ) : List (Except (Fault ℝ) Bool) :=
  [accepts (c.shift parameters block k t),
    c.shift parameters block k t >>= fun moved => accepts (c.plainCall moved.2)]

noncomputable def blockCalls (parameters : List (List ℝ)) (block : Nat) : List (Except (Fault ℝ) Bool) :=
  accepts (c.updateCall parameters block) ::
    (List.range (c.localSize block)).flatMap fun k => c.steps.flatMap (c.stepCalls parameters block k)

-- Everything that a check evaluates, in turn.
noncomputable def calls (parameters : List (List ℝ)) : List (Except (Fault ℝ) Bool) :=
  accepts (c.fullCall parameters) :: accepts (c.plainCall parameters) ::
    (List.range c.term.blockSizes.length).flatMap (c.blockCalls parameters)

theorem residuals_accepted (parameters : List (List ℝ)) :
    c.residualsAt parameters = Buffers.residuals <$> accepted (c.plainCall parameters) := by
  rw [map_eq_pure_bind]
  exact checked_call (c.plainCall parameters) fun buffers => pure buffers.residuals

theorem local_size (block : Nat) : c.localSize block = (c.update block).localSize := by
  rw [localSize, update]
  cases c.parameterization? block with
  | none => rfl
  | some p => rfl

section Sized

variable (parameters : List (List ℝ)) (sizes : parameters.map List.length = c.term.blockSizes) (block : Nat) (x : List ℝ)
  (held : parameters[block]? = some x)

include held

theorem update_call :
    c.updateCall parameters block = (c.update block).jacobian x (List.replicate (x.length * (c.update block).localSize) 0) := by
  rw [updateCall, List.getD_eq_getElem?_getD, held, local_size]
  rfl

include sizes

theorem held_size : x.length = c.blockSize block := by
  rw [blockSize, ← sizes, List.getD_eq_getElem?_getD, List.getElem?_map, held]
  rfl

theorem plus_accepted (delta : List ℝ) (whole : delta.length = c.localSize block) :
    c.plus block x delta = accepted ((c.update block).plus x delta (List.replicate x.length 0)) := by
  have size := c.held_size parameters sizes block x held
  rw [localSize] at whole
  rw [plus, update]
  cases slot : c.parameterization? block with
  | some p => exact (checked_call (p.plus x delta (List.replicate x.length 0)) pure).trans (bind_pure _)
  | none =>
      rw [slot] at whole
      have same : delta.length = x.length := whole.trans size.symm
      have added := add_blocks_zip x delta (List.replicate x.length 0) same List.length_replicate
      change .ok (x.zipWith (· + ·) delta ++ (List.replicate x.length 0).drop delta.length) =
        Except.ok (Parameterization.addBlocks x delta (List.replicate x.length 0))
      rw [added, same, List.drop_replicate, Nat.sub_self, List.replicate_zero, List.append_nil]

theorem step_accepted (k : Nat) (t : ℝ) :
    (do c.residualsAt (parameters.set block (← c.plus block x (c.tangentStep block k t)))) =
      c.residualsAlong parameters block k t := by
  have whole : (c.tangentStep block k t).length = c.localSize block := by
    rw [tangentStep, List.length_set, List.length_replicate]
  rw [plus_accepted c parameters sizes block x held _ whole, residualsAlong, shift, List.getD_eq_getElem?_getD, held]
  change _ = accepted (Prod.map id (parameters.set block) <$>
    (c.update block).plus x (c.tangentStep block k t) (List.replicate x.length 0)) >>= c.residualsAt
  rw [accepted_map, bind_map_left]

theorem central_difference (k : Nat) (h : ℝ) :
    c.centralDifference parameters block k h = do
      let forward ← c.residualsAlong parameters block k h
      let backward ← c.residualsAlong parameters block k (-h)
      return forward.zipWith (fun a b => (a - b) / (2.0 * h)) backward := by
  have found : (fetch parameters block : Except (Fault ℝ) _) = .ok x := (fetch_ok _ _ _).mpr held
  rw [← step_accepted c parameters sizes block x held k h, ← step_accepted c parameters sizes block x held k (-h),
    centralDifference, found]
  change (do
    let there ← c.plus block x (c.tangentStep block k h)
    let forward ← c.residualsAt (parameters.set block there)
    let there ← c.plus block x (c.tangentStep block k (-h))
    let backward ← c.residualsAt (parameters.set block there)
    return forward.zipWith (fun a b => (a - b) / (2.0 * h)) backward) = _
  simp only [bind_assoc]

-- An empty slot has the identity for its Jacobian.
theorem tangent_jacobian (ambient : List ℝ) :
    c.tangentJacobian block (c.localSize block) x ambient = do
      let a ← (Mat.ofRowMajor c.term.residualCount x.length ambient : Except (Fault ℝ) _)
      let written ← accepted (c.updateCall parameters block)
      let slope ← (Mat.ofRowMajor x.length (c.localSize block) written : Except (Fault ℝ) _)
      return a * slope := by
  have size := c.held_size parameters sizes block x held
  have called := c.update_call parameters block x held
  have bare := localSize.eq_1 c block
  rw [update] at called
  rw [tangentJacobian]
  generalize c.localSize block = cols at *
  generalize c.blockSize block = n at *
  subst size
  refine bind_congr fun a => ?_
  rw [called]
  cases slot : c.parameterization? block with
  | some p =>
      simp only [Option.getD_some, dite_true]
      match p.jacobian x (List.replicate (x.length * p.localSize) 0) with
      | .error _ => rfl
      | .ok (false, _) => rfl
      | .ok (true, _) => rfl
  | none =>
      rw [slot] at bare
      cases bare
      have slope := congrArg (· >>= fun slope => pure (a * slope)) (identity_slope x.length x)
      dsimp only [Option.getD_none]
      refine Eq.trans ?_ (slope.symm.trans (bind_assoc _ _ _))
      exact dif_pos rfl

end Sized

end GradientChecker

end LandmarkMap
