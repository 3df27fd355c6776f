import LandmarkMap.Proofs.Solver.GradientCalls
import LandmarkMap.Proofs.Solver.LandmarkBlocks

set_option autoImplicit false

namespace LandmarkMap

namespace GradientChecker

variable (c : GradientChecker ℝ) (parameters : List (List ℝ))

theorem update_keeps (keeps : c.KeepsSizes) (block : Nat) : (c.update block).KeepsSizes := by
  rw [update]
  cases slot : c.parameterization? block with
  | none => exact updates_keep_sizes.2.2 (c.blockSize block)
  | some p => exact keeps.updates p (List.mem_of_getElem? (Option.join_eq_some_iff.mp slot))

theorem along_makes (block k : Nat) (t : ℝ) : Makes (c.residualsAlong parameters block k t) (c.stepCalls parameters block k t) := by
  have along : c.residualsAlong parameters block k t =
      Buffers.residuals <$> (accepted (c.shift parameters block k t) >>= fun moved => accepted (c.plainCall moved)) := by
    rw [residualsAlong, map_bind]
    exact bind_congr (m := Except (Failure ℝ)) fun moved => c.residuals_accepted moved
  rw [along]
  exact makes_map _ _ _ (makes_chain _ c.plainCall)

theorem slope_read (keeps : c.KeepsSizes) (block : Nat) (x : List ℝ) (held : parameters[block]? = some x)
    (written : List ℝ) (done : accepted (c.updateCall parameters block) = .ok written) :
    ∃ slope, Mat.ofRowMajor x.length (c.localSize block) written = .ok slope := by
  rw [accepted_ok, update_call c parameters block x held] at done
  have fits : written.length = x.length * c.localSize block := by
    rw [update_keeps c keeps block _ _ _ _ done, List.length_replicate, local_size]
  obtain ⟨slope, read, _⟩ := row_major_read x.length (c.localSize block) written fits
  exact ⟨slope, read⟩

-- What a check makes of all that it has evaluated.
noncomputable def summary (full : Buffers ℝ) (bare : List ℝ) (blocks : List (BlockGradient ℝ)) : GradientReport ℝ :=
  let maxError := blocks.foldl
    (fun top b => largerError top (maxRelativeError c.options.absoluteFloor b.analytic.entries b.numeric.entries))
    (maxRelativeError c.options.absoluteFloor full.residuals bare)
  { residuals := full.residuals, blocks, maxError, passed := c.within maxError }

section Sized

variable (keeps : c.KeepsSizes) (sizes : parameters.map List.length = c.term.blockSizes)

include sizes

theorem plain_length (keeps : c.term.KeepsSizes) (buffers : Buffers ℝ)
    (done : accepted (c.plainCall parameters) = .ok buffers) :
    buffers.residuals.length = c.term.residualCount := by
  have same := keeps _ _ _ _ sizes ((accepted_ok _ _).mp done)
  exact (Prod.mk.inj same).1.trans List.length_replicate

theorem full_slots (keeps : c.term.KeepsSizes) (buffers : Buffers ℝ)
    (done : accepted (c.fullCall parameters) = .ok buffers) :
    ∃ written, c.term.Full buffers written := by
  have same := keeps _ _ _ _ sizes ((accepted_ok _ _).mp done)
  rw [masked_sizes] at same
  obtain ⟨count, slots⟩ := Prod.mk.inj same
  obtain ⟨filled, found, slots⟩ := Option.map_eq_some_iff.mp slots
  obtain ⟨written, rfl, cells⟩ := filled_slots _ _ _ slots
  exact ⟨written, found, count, cells⟩

theorem probe_run :
    c.probe parameters = do
      let full ← accepted (c.fullCall parameters)
      let bare ← accepted (c.plainCall parameters)
      let blocks ← (full.jacobians.getD []).zipIdx.mapM fun entry =>
        c.blockGradient parameters entry.2 (entry.1.getD [])
      return c.summary full bare.residuals blocks := by
  have count : parameters.length = c.term.blockSizes.length := by
    rw [← sizes, List.length_map]
  rw [probe, residuals_accepted, require, if_pos count]
  simp only [fullCall, bind_map_left]
  cases c.term.evaluate parameters (Buffers.masked c.term.residualCount c.term.blockSizes
    (c.term.blockSizes.map fun _ => true)) with
  | error _ => rfl
  | ok outcome =>
      obtain ⟨answer, full⟩ := outcome
      cases answer with
      | false => rfl
      | true => rfl

section Block

variable (block : Nat) (x : List ℝ) (held : parameters[block]? = some x)

include held

theorem central_makes (k : Nat) (h : ℝ) :
    Makes (c.centralDifference parameters block k h) (c.stepCalls parameters block k h ++ c.stepCalls parameters block k (-h)) := by
  rw [c.central_difference parameters sizes block x held]
  apply makes_bind _ _ _ _ (c.along_makes parameters block k h)
  intro forward _
  exact makes_map _ _ _ (c.along_makes parameters block k (-h))

theorem column_makes (k : Nat) :
    Makes (c.numericColumn parameters block k) (c.steps.flatMap (c.stepCalls parameters block k)) := by
  have differences := c.central_makes parameters sizes block x held k
  rw [numericColumn, steps]
  cases c.options.richardson with
  | false =>
      have once := differences c.options.stepSize
      simpa using once
  | true =>
      have twice := makes_bind _ (fun coarse => do
        let fine ← c.centralDifference parameters block k (c.options.stepSize / 2)
        return fine.zipWith (fun f c => (f * 4.0 - c) / 3.0) coarse) _ _ (differences c.options.stepSize) fun coarse _ =>
          makes_map _ _ _ (differences (c.options.stepSize / 2))
      simpa using twice

include keeps

theorem tangent_makes (ambient : List ℝ) (fits : ambient.length = c.term.residualCount * x.length) :
    Makes (c.tangentJacobian block (c.localSize block) x ambient) [accepts (c.updateCall parameters block)] := by
  obtain ⟨a, read, _⟩ := row_major_read c.term.residualCount x.length ambient fits
  rw [tangent_jacobian c parameters sizes block x held, (lifted_fault_ok _ a).mpr read, ok_bind]
  apply makes_bind _ _ _ [] (makes_accepted _)
  intro written done
  obtain ⟨slope, read⟩ := slope_read c parameters keeps block x held written done
  rw [(lifted_fault_ok _ slope).mpr read, ok_bind]
  exact makes_value (a * slope)

theorem gradient_makes (ambient : List ℝ) (fits : ambient.length = c.term.residualCount * x.length) :
    Makes (c.blockGradient parameters block ambient) (c.blockCalls parameters block) := by
  have found : (fetch parameters block : Except (Fault ℝ) _) = .ok x := (fetch_ok _ _ _).mpr held
  rw [blockGradient, (lifted_fault_ok _ x).mpr found, ok_bind, blockCalls]
  apply makes_bind _ _ [_] _ (tangent_makes c parameters keeps sizes block x held ambient fits)
  intro analytic _
  exact makes_map _ _ _ (makes_map_m _ _ _ fun k _ => column_makes c parameters sizes block x held k)

end Block

theorem slot_block (full : Buffers ℝ) (written : List (List ℝ)) (whole : c.term.Full full written)
    (block : Nat) (ambient : List ℝ) (filled : written[block]? = some ambient) :
    ∃ x, parameters[block]? = some x ∧ ambient.length = c.term.residualCount * x.length := by
  have cells := congrArg (·[block]?) whole.sizes
  simp only [← sizes, List.getElem?_map, filled, Option.map_some] at cells
  obtain ⟨size, listed, same⟩ := Option.map_eq_some_iff.mp cells.symm
  obtain ⟨x, held, rfl⟩ := Option.map_eq_some_iff.mp listed
  exact ⟨x, held, same.symm⟩

include keeps

theorem blocks_make (full : Buffers ℝ) (written : List (List ℝ)) (whole : c.term.Full full written) :
    Makes ((full.jacobians.getD []).zipIdx.mapM fun entry => c.blockGradient parameters entry.2 (entry.1.getD []))
      ((List.range c.term.blockSizes.length).flatMap (c.blockCalls parameters)) := by
  have turns : (List.range c.term.blockSizes.length).flatMap (c.blockCalls parameters) =
      (written.map some).zipIdx.flatMap fun entry => c.blockCalls parameters entry.2 := by
    have count := congrArg List.length whole.sizes
    rw [List.length_map, List.length_map] at count
    have blocks : (written.map some).zipIdx.map Prod.snd = List.range c.term.blockSizes.length := by
      rw [List.zipIdx_map_snd, List.length_map, count, List.range_eq_range']
    rw [← blocks, List.flatMap_map]
  rw [whole.slots, Option.getD_some, turns]
  apply makes_map_m
  rintro ⟨slot, block⟩ member
  rw [List.mk_mem_zipIdx_iff_getElem?, List.getElem?_map] at member
  obtain ⟨ambient, filled, rfl⟩ := Option.map_eq_some_iff.mp member
  obtain ⟨x, held, fits⟩ := slot_block c parameters sizes full written whole block ambient filled
  exact gradient_makes c parameters keeps sizes block x held ambient fits

theorem probe_makes : Makes (c.probe parameters) (c.calls parameters) := by
  rw [probe_run c parameters sizes, calls]
  apply makes_bind _ _ [_] _ (makes_accepted _)
  intro full done
  obtain ⟨written, whole⟩ := c.full_slots parameters sizes keeps.term full done
  apply makes_bind _ _ [_] _ (makes_accepted _)
  intro bare _
  exact makes_map _ _ _ (blocks_make c parameters keeps sizes full written whole)

end Sized

end GradientChecker
end LandmarkMap
