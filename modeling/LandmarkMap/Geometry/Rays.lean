import LandmarkMap.Geometry.Vec
import LandmarkMap.Failure

set_option autoImplicit false

/-! Angles between rays and the distance from a point to a ray. -/

namespace LandmarkMap.Rays

variable {α : Type} [Scalar α]

def angle (a b : Vec3 α) : α :=
  let sine := (a.cross b).norm
  let cosine := a.dot b
  if sine == 0 && cosine == 0 then 0 else Scalar.atan2 sine cosine

def widestFrom (ray : Vec3 α) (others : List (Vec3 α)) (widest : α) : α :=
  others.foldl (fun top other => Scalar.max top (angle ray other)) widest

def widestAbove : List (Vec3 α) → α → α
  | [], widest => widest
  | ray :: rest, widest => widestAbove rest (widestFrom ray rest widest)

def maxAngle (rays : List (Vec3 α)) : α := widestAbove rays 0

def distance (point origin direction : Vec3 α) : Except (Fault α) α := do
  let norm := direction.norm
  require (0 < norm) .zeroRayDirection
  let unit := direction.divide norm
  let offset := point - origin
  let along := offset.dot unit
  return if along ≤ 0 then offset.norm else (offset - unit.scale along).norm

end LandmarkMap.Rays
