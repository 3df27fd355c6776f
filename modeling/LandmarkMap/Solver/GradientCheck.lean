import LandmarkMap.Solver.CostTerm

set_option autoImplicit false

/-!
Comparison of the Jacobians that a cost term writes with central differences of its residuals, both
in the tangent spaces of the parameter blocks. A relative error is `none` where it is not finite.
-/

namespace LandmarkMap

structure GradientOptions (α : Type) where
  stepSize : α
  relativeTolerance : α
  absoluteFloor : α
  richardson : Bool

instance {α : Type} [Scalar α] : Inhabited (GradientOptions α) := ⟨⟨1e-4, 1e-6, 1, true⟩⟩

structure BlockGradient (α : Type) where
  rows : Nat
  cols : Nat
  analytic : Mat rows cols α
  numeric : Mat rows cols α

structure GradientReport (α : Type) where
  residuals : List α
  blocks : List (BlockGradient α)
  maxError : Option α
  passed : Bool

def largerError {α : Type} [Scalar α] : Option α → Option α → Option α
  | some a, some b => some (Scalar.max a b)
  | _, _ => none

def relativeError {α : Type} [Scalar α] (floor a b : α) : Option α :=
  let error := Scalar.abs (a - b) /
    Scalar.max (Scalar.max (Scalar.abs a) (Scalar.abs b)) floor
  if Scalar.isFinite error then some error else none

def maxRelativeError {α : Type} [Scalar α] (floor : α) (a b : List α) : Option α :=
  (a.zip b).foldl (fun top (x, y) => largerError top (relativeError floor x y)) (some 0)

structure GradientChecker (α : Type) where
  term : CostTerm α
  parameterizations : List (Option (Parameterization α))
  options : GradientOptions α

namespace GradientChecker

variable {α : Type} [Scalar α]

/-- A checker with one slot per block; an empty slot stands for a Euclidean block. -/
def create (term : CostTerm α) (parameterizations : List (Option (Parameterization α)))
    (options : GradientOptions α) : Except (Fault α) (GradientChecker α) := do
  require (parameterizations.length = term.blockSizes.length) .parameterizationCount
  let matching := (parameterizations.zip term.blockSizes).all fun (slot, size) =>
    match slot with
    | some p => p.globalSize == size
    | none => true
  require (matching = true) .parameterizationSize
  return ⟨term, parameterizations, options⟩

def parameterization? (c : GradientChecker α) (block : Nat) : Option (Parameterization α) :=
  (c.parameterizations[block]?).join

def blockSize (c : GradientChecker α) (block : Nat) : Nat := c.term.blockSizes.getD block 0

def localSize (c : GradientChecker α) (block : Nat) : Nat :=
  match c.parameterization? block with
  | some p => p.localSize
  | none => c.blockSize block

def residualsAt (c : GradientChecker α) (parameters : List (List α)) :
    Except (Failure α) (List α) := do
  let (accepted, buffers) ← c.term.evaluate parameters (Buffers.plain c.term.residualCount)
  if accepted then return buffers.residuals else throw (.error .evaluationFailed)

def plus (c : GradientChecker α) (block : Nat) (x delta : List α) :
    Except (Failure α) (List α) := do
  let zeros : List α := List.replicate x.length 0
  match c.parameterization? block with
  | some p =>
      let (accepted, out) ← p.plus x delta zeros
      if accepted then return out else throw (.error .evaluationFailed)
  | none => return x.zipWith (· + ·) delta ++ zeros.drop delta.length

def tangentJacobian (c : GradientChecker α) (block cols : Nat) (x ambient : List α) :
    Except (Failure α) (Mat c.term.residualCount cols α) := do
  let size := c.blockSize block
  let ambient ← (Mat.ofRowMajor c.term.residualCount size ambient : Except (Fault α) _)
  let update : Mat x.length cols α ← match c.parameterization? block with
    | some p =>
        let (accepted, buffer) ← p.jacobian x (List.replicate (x.length * p.localSize) 0)
        if accepted then (Mat.ofRowMajor x.length cols buffer : Except (Fault α) _)
        else throw (.error .evaluationFailed)
    | none => pure (Mat.of fun i j => if i.val = j.val then 1 else 0)
  if h : x.length = size then return ambient * (h ▸ update : Mat size cols α)
  else throw (.fault .productShape)

def centralDifference (c : GradientChecker α) (parameters : List (List α)) (block k : Nat) (h : α) :
    Except (Failure α) (List α) := do
  let zeros : List α := List.replicate (c.localSize block) 0
  let x ← (fetch parameters block : Except (Fault α) _)
  let forward ← c.residualsAt (parameters.set block (← c.plus block x (zeros.set k h)))
  let backward ← c.residualsAt (parameters.set block (← c.plus block x (zeros.set k (-h))))
  return forward.zipWith (fun a b => (a - b) / (2.0 * h)) backward

def numericColumn (c : GradientChecker α) (parameters : List (List α)) (block k : Nat) :
    Except (Failure α) (List α) := do
  let h := c.options.stepSize
  if c.options.richardson then
    let coarse ← c.centralDifference parameters block k h
    let fine ← c.centralDifference parameters block k (h / 2.0)
    return fine.zipWith (fun f c => (f * 4.0 - c) / 3.0) coarse
  else c.centralDifference parameters block k h

def blockGradient (c : GradientChecker α) (parameters : List (List α)) (block : Nat)
    (ambient : List α) : Except (Failure α) (BlockGradient α) := do
  let rows := c.term.residualCount
  let cols := c.localSize block
  let x ← (fetch parameters block : Except (Fault α) _)
  let analytic ← c.tangentJacobian block cols x ambient
  let columns ← (List.range cols).mapM fun k => c.numericColumn parameters block k
  let numeric : Mat rows cols α := Mat.of fun i j => (columns.getD j []).getD i 0
  return ⟨rows, cols, analytic, numeric⟩

def within (c : GradientChecker α) : Option α → Bool
  | some error => decide (error ≤ c.options.relativeTolerance)
  | none =>
      decide (0 < c.options.relativeTolerance) && !Scalar.isFinite c.options.relativeTolerance

def probe (c : GradientChecker α) (parameters : List (List α)) :
    Except (Failure α) (GradientReport α) := do
  let sizes := c.term.blockSizes
  (require (parameters.length = sizes.length) .parameterBlockCount : Except (Fault α) Unit)
  let all := Buffers.masked c.term.residualCount sizes (sizes.map fun _ => true)
  let (accepted, buffers) ← c.term.evaluate parameters all
  if accepted = false then throw (.error .evaluationFailed)
  let plain ← c.residualsAt parameters
  let floor := c.options.absoluteFloor
  let blocks ← ((buffers.jacobians.getD []).zipIdx).mapM fun (slot, block) =>
    c.blockGradient parameters block (slot.getD [])
  let maxError := blocks.foldl
    (fun top b => largerError top (maxRelativeError floor b.analytic.entries b.numeric.entries))
    (maxRelativeError floor buffers.residuals plain)
  return { residuals := buffers.residuals, blocks, maxError, passed := c.within maxError }

end GradientChecker

end LandmarkMap
