import LandmarkMap.Solver.Block

set_option autoImplicit false

/-!
The contract between a least-squares solver and the terms of its cost: residuals and Jacobians
written into the solver's buffers, and updates of parameter blocks in a tangent space.
-/

namespace LandmarkMap

/-- Buffers of a solver: one for the residuals and, if Jacobians are asked for, a slot per parameter
block, empty where that Jacobian is not needed. -/
structure Buffers (α : Type) where
  residuals : List α
  jacobians : Option (List (Option (List α)))

namespace Buffers

variable {α : Type} [Scalar α]

def plain (residualCount : Nat) : Buffers α := ⟨List.replicate residualCount 0, none⟩

def masked (residualCount : Nat) (blockSizes : List Nat) (wanted : List Bool) : Buffers α :=
  ⟨List.replicate residualCount 0, some <| blockSizes.zipIdx.map fun (size, i) =>
    if wanted.getD i false then some (List.replicate (residualCount * size) 0) else none⟩

end Buffers

/-- A term of the cost. Evaluation says whether it was possible and returns the buffers as it left
them. -/
structure CostTerm (α : Type) where
  residualCount : Nat
  blockSizes : List Nat
  evaluate : (parameters : List (List α)) → Buffers α → Except (Fault α) (Bool × Buffers α)

def fillSlot {α : Type} {m n : Nat} (slots : List (Option (List α))) (block : Nat)
    (jacobian : Mat m n α) : Except (Fault α) (List (Option (List α))) := do
  match ← fetch slots block with
  | none => return slots
  | some buffer => return slots.set block (some (← jacobian.writeRowMajor buffer))

/-- How a solver moves a parameter block: an update by a tangent vector, written into an output
block, and its derivative at zero, written row by row. -/
structure Parameterization (α : Type) where
  globalSize : Nat
  localSize : Nat
  plus : (x delta out : List α) → Except (Fault α) (Bool × List α)
  jacobian : (x buffer : List α) → Except (Fault α) (Bool × List α)

def Parameterization.buffers {α : Type} [Scalar α] (p : Parameterization α) :
    Except (Fault α) (List α × List α) := do
  Word.reserve p.globalSize 8
  let entries ← Word.mul p.globalSize p.localSize
  Word.reserve entries 8
  return (List.replicate p.globalSize 0, List.replicate entries 0)

end LandmarkMap
