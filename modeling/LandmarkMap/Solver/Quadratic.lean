import LandmarkMap.Solver.CostTerm

set_option autoImplicit false

/-! A small cost term with adjustable defects, to try a gradient checker on. -/

namespace LandmarkMap

/-- The residuals `x₀², x₀ x₁` of one block `x₀, x₁`. -/
structure Quadratic (α : Type) where
  /-- Added to the last entry of the Jacobian. -/
  jacobianError : α
  /-- Added to the first residual when Jacobians are asked for. -/
  offset : α
  /-- Evaluation fails where `x₀` exceeds this, if it is given. -/
  failAbove : Option α

namespace Quadratic

variable {α : Type} [Scalar α]

def evaluate (c : Quadratic α) (parameters : List (List α)) (buffers : Buffers α) :
    Except (Fault α) (Bool × Buffers α) := do
  let block ← fetch parameters 0
  let x0 ← fetch block 0
  let failed := match c.failAbove with
    | some limit => decide (limit < x0)
    | none => false
  if failed then return (false, buffers)
  else
    let x1 ← fetch block 1
    match buffers.jacobians with
    | none =>
        return (true, ⟨← Block.writeFront [x0 * x0, x0 * x1] buffers.residuals, none⟩)
    | some slots =>
        let residuals ← Block.writeFront [x0 * x0 + c.offset, x0 * x1] buffers.residuals
        let jacobian : Mat 2 2 α := ⟨#v[#v[2.0 * x0, 0], #v[x1, x0 + c.jacobianError]]⟩
        return (true, ⟨residuals, some (← fillSlot slots 0 jacobian)⟩)

def term (c : Quadratic α) : CostTerm α := ⟨2, [2], c.evaluate⟩

end Quadratic

end LandmarkMap
