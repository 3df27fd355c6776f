import LandmarkMap.Geometry.Quaternion
import LandmarkMap.Failure

set_option autoImplicit false

/-!
Unit bearings. A bearing is kept as a rotation that takes the third axis of space to it, so that the
images of the other two axes span its tangent plane everywhere on the sphere.
-/

namespace LandmarkMap

structure Bearing (α : Type) where
  rotation : Quaternion α
deriving Repr, DecidableEq

namespace Bearing

variable {α : Type} [Scalar α]

/-- The shortest rotation to the direction of `v`; within the cap around the negative third axis,
the half turn about the first. -/
def ofDirection? (v : Vec3 α) : Except (Error α) (Bearing α) :=
  let norm := v.norm
  if ¬ (0 < norm) ∨ ¬ Scalar.isFinite norm then .error .degenerateBearing
  else
    let u := v.divide norm
    let onePlusCos := 1 + u.z
    .ok ⟨if onePlusCos < 1e-10 then (⟨1, 0, 0, 0⟩ : Quaternion α).normalize
      else (⟨-u.y, u.x, 0, onePlusCos⟩ : Quaternion α).normalize⟩

def direction (b : Bearing α) : Vec3 α := b.rotation.rotate ⟨0, 0, 1⟩

def tangentBasis (b : Bearing α) : Mat 3 2 α :=
  let r := b.rotation.toMat
  Mat.of fun i j => r i (j.castLE (by decide))

def tangent (b : Bearing α) (delta : Vec2 α) : Vec3 α := b.tangentBasis.actPlane delta

def plus (b : Bearing α) (delta : Vec2 α) : Bearing α :=
  ⟨Quaternion.exp (b.tangent delta) * b.rotation⟩

def plusJacobian (b : Bearing α) : Mat 4 2 α := b.rotation.plusJacobian * b.tangentBasis

def directionOf (q : Quaternion α) : Vec3 α :=
  ⟨2.0 * (q.x * q.z + q.w * q.y),
   2.0 * (q.y * q.z - q.w * q.x),
   q.w * q.w - q.x * q.x - q.y * q.y + q.z * q.z⟩

def directionJacobian (q : Quaternion α) : Mat 3 4 α :=
  ⟨#v[#v[2.0 * q.z, 2.0 * q.w, 2.0 * q.x, 2.0 * q.y],
      #v[-2.0 * q.w, 2.0 * q.z, 2.0 * q.y, -2.0 * q.x],
      #v[-2.0 * q.x, -2.0 * q.y, 2.0 * q.z, 2.0 * q.w]]⟩

end Bearing

/-- A point seen from an anchor: where to look, and one over how far. -/
structure InverseDepth (α : Type) where
  bearing : Bearing α
  inverseDepth : α
deriving Repr, DecidableEq

namespace InverseDepth

variable {α : Type} [Scalar α]

def ofPoint? (p anchor : Vec3 α) : Except (Error α) (InverseDepth α) := do
  let offset := p - anchor
  let distance := offset.norm
  if ¬ (0 < distance) ∨ ¬ Scalar.isFinite distance then throw .landmarkAtAnchor
  let bearing ← Bearing.ofDirection? offset
  return ⟨bearing, 1 / distance⟩

def toPoint (anchor : Vec3 α) (seen : InverseDepth α) : Except (Fault α) (Vec3 α) := do
  require (0 < seen.inverseDepth) (.nonPositiveInverseDepth seen.inverseDepth)
  return anchor + seen.bearing.direction.divide seen.inverseDepth

end InverseDepth

end LandmarkMap
