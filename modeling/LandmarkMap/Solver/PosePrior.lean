import LandmarkMap.Solver.CostTerm
import LandmarkMap.Geometry.Cholesky

set_option autoImplicit false

/-!
Priors on a pose. The residual is the weighted deviation of the rotation, as twice the vector part
of the quotient of the quaternions, and of the position. Blocks: rotation (4), position (3).
-/

namespace LandmarkMap

structure PosePrior (α : Type) where
  rotation : Quaternion α
  position : Vec3 α
  /-- A matrix whose product with its transpose from the left is the inverse covariance. -/
  sqrtInformation : Mat 6 6 α

namespace PosePrior

variable {α : Type} [Scalar α]

def symmetryTolerance : α := 1e-9

def sqrtInformationOf? (larger : α → α → α) (covariance : Mat 6 6 α) : Option (Mat 6 6 α) :=
  let asymmetry := (covariance - covariance.transpose).amax larger
  if asymmetry ≤ symmetryTolerance * Scalar.max (covariance.amax larger) 1 then
    match covariance.cholesky? with
    | none => none
    | some l =>
        let information := l.inverseFromCholesky
        let symmetric := (information + information.transpose).scale 0.5
        symmetric.cholesky?.map Mat.transpose
  else none

def ofCovariance? (larger : α → α → α) (rotation : Quaternion α) (position : Vec3 α)
    (covariance : Mat 6 6 α) : Except (Error α) (PosePrior α) :=
  match sqrtInformationOf? larger covariance with
  | some root => .ok ⟨rotation, position, root⟩
  | none => .error .invalidCovariance

def rotationError (prior : PosePrior α) (q : Quaternion α) : Quaternion α :=
  (q.positiveProduct prior.rotation.conj).1

def deviation (prior : PosePrior α) (q : Quaternion α) (p : Vec3 α) : Vector α 6 :=
  let turn := (prior.rotationError q).imag.scale 2.0
  let shift := p - prior.position
  #v[turn.x, turn.y, turn.z, shift.x, shift.y, shift.z]

def residual (prior : PosePrior α) (q : Quaternion α) (p : Vec3 α) : Vector α 6 :=
  prior.sqrtInformation.mulVec (prior.deviation q p)

def rotationJacobian (prior : PosePrior α) (q : Quaternion α) : Mat 6 4 α :=
  let error := prior.rotationError q
  let tangent := Mat.identity.scale error.w - error.imag.skew
  let inTangent : Mat (3 + 3) 3 α := tangent.stack Mat.zero
  prior.sqrtInformation * Quaternion.lift inTangent q

def positionJacobian (prior : PosePrior α) : Mat 6 3 α := Mat.columns 3 3 prior.sqrtInformation

def evaluate (prior : PosePrior α) (parameters : List (List α)) (buffers : Buffers α) :
    Except (Fault α) (Bool × Buffers α) := do
  let q ← Block.quaternion (← fetch parameters 0)
  let p ← Block.vector (← fetch parameters 1)
  if (q.isFinite && p.isFinite) = false then return (false, buffers)
  else
    let residuals ← Block.writeFront (prior.residual q p).toList buffers.residuals
    match buffers.jacobians with
    | none => return (true, ⟨residuals, none⟩)
    | some slots =>
        let slots ← fillSlot slots 0 (prior.rotationJacobian q)
        let slots ← fillSlot slots 1 prior.positionJacobian
        return (true, ⟨residuals, some slots⟩)

def term (prior : PosePrior α) : CostTerm α := ⟨6, [4, 3], prior.evaluate⟩

end PosePrior

end LandmarkMap
