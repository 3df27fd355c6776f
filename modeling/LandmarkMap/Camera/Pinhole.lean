import LandmarkMap.Camera.Undistortion

set_option autoImplicit false

/-!
Pinhole cameras: projection of a point in front of the camera to a pixel, its derivatives, and the
ray behind a pixel.
-/

namespace LandmarkMap

structure PinholeParameters (α : Type) where
  name : String
  width : Nat
  height : Nat
  fx : α
  fy : α
  cx : α
  cy : α
  distortion : Distortion α

namespace PinholeParameters

variable {α : Type} [Scalar α]

instance : Inhabited (PinholeParameters α) :=
  ⟨{ name := "cam0", width := 752, height := 480, fx := 458.654, fy := 457.296, cx := 367.215,
     cy := 248.375, distortion := .ideal }⟩

def FocalLengthsValid (p : PinholeParameters α) : Prop :=
  (0 < p.fx ∧ 0 < p.fy) ∧ Scalar.isFinite p.cx = true ∧ Scalar.isFinite p.cy = true

instance (p : PinholeParameters α) : Decidable p.FocalLengthsValid := by
  unfold FocalLengthsValid; infer_instance

def SizeValid {α : Type} (p : PinholeParameters α) : Prop := p.width ≠ 0 ∧ p.height ≠ 0

instance {α : Type} (p : PinholeParameters α) : Decidable p.SizeValid := by
  unfold SizeValid; infer_instance

end PinholeParameters

structure Pinhole (α : Type) [Scalar α] extends PinholeParameters α where
  focal : toPinholeParameters.FocalLengthsValid
  size : toPinholeParameters.SizeValid

inductive ProjectionOutcome where
  | visible
  | outsideImage
  | behindCamera
  | invalid
deriving DecidableEq, Repr

def ProjectionOutcome.isValid : ProjectionOutcome → Bool
  | visible => true
  | outsideImage => true
  | behindCamera => false
  | invalid => false

structure ProjectionJacobians (k : Nat) (α : Type) where
  point : Mat 2 3 α
  intrinsics : Mat 2 4 α
  distortion : Mat 2 k α

def ProjectionJacobians.zeros {k : Nat} {α : Type} [Scalar α] : ProjectionJacobians k α :=
  ⟨Mat.zero, Mat.zero, Mat.zero⟩

structure Intrinsics (α : Type) where
  fx : α
  fy : α
  cx : α
  cy : α

namespace Intrinsics

variable {α : Type}

def ofList? : List α → Except (Fault α) (Intrinsics α)
  | [fx, fy, cx, cy] => .ok ⟨fx, fy, cx, cy⟩
  | _ => .error .intrinsicsCount

def toList (k : Intrinsics α) : List α := [k.fx, k.fy, k.cx, k.cy]

variable [Scalar α]

def pixel (k : Intrinsics α) (m : Vec2 α) : Vec2 α := ⟨k.fx * m.x + k.cx, k.fy * m.y + k.cy⟩

def focal (k : Intrinsics α) : Mat 2 2 α := ⟨#v[#v[k.fx, 0], #v[0, k.fy]]⟩

end Intrinsics

structure Projection (k : Nat) (α : Type) where
  keypoint : Vec2 α
  outcome : ProjectionOutcome
  jacobians : Option (ProjectionJacobians k α)

namespace Pinhole

variable {α : Type} [Scalar α]

def ofParameters? (p : PinholeParameters α) : Except (Error α) (Pinhole α) :=
  if focal : p.FocalLengthsValid then
    if size : p.SizeValid then .ok ⟨p, focal, size⟩ else .error (.invalidCamera .imageSize)
  else .error (.invalidCamera (.focalLength p.fx p.fy))

def named (c : Pinhole α) (name : String) : Pinhole α :=
  ⟨{ c.toPinholeParameters with name }, c.focal, c.size⟩

def intrinsics (c : Pinhole α) : Intrinsics α := ⟨c.fx, c.fy, c.cx, c.cy⟩

def distortionParameters (c : Pinhole α) : List α := c.distortion.parameters.toList

/-- Whether a pixel lies in the image, its left and upper border included. -/
def sees (c : Pinhole α) (keypoint : Vec2 α) : Bool :=
  decide (0 ≤ keypoint.x) && decide (0 ≤ keypoint.y) &&
    decide (keypoint.x < Scalar.ofNat c.width) && decide (keypoint.y < Scalar.ofNat c.height)

def jacobiansAt (k : Intrinsics α) (d : Distortion α) (p : Vec3 α) :
    ProjectionJacobians d.kind.count α :=
  let invZ := 1 / p.z
  let m : Vec2 α := ⟨p.x * invZ, p.y * invZ⟩
  let moved := d.distort m
  let byPoint : Mat 2 3 α :=
    ⟨#v[#v[invZ, 0, -p.x * invZ * invZ], #v[0, invZ, -p.y * invZ * invZ]]⟩
  { point := k.focal * d.pointJacobian m * byPoint
    intrinsics := ⟨#v[#v[moved.x, 0, 1, 0], #v[0, moved.y, 0, 1]]⟩
    distortion := k.focal * d.parameterJacobian m }

def projectWith (c : Pinhole α) (intrinsics distortion : List α) (p : Vec3 α) :
    Except (Fault α) (Projection c.distortion.kind.count α) := do
  let k ← Intrinsics.ofList? intrinsics
  if p.isFinite = false then return ⟨Vec2.zero, .invalid, none⟩
  else if p.z ≤ 0 then return ⟨Vec2.zero, .behindCamera, none⟩
  else
    let parameters ← c.distortion.withParameters distortion
    let d : Distortion α := ⟨c.distortion.kind, parameters⟩
    let invZ := 1 / p.z
    let keypoint := k.pixel (d.distort ⟨p.x * invZ, p.y * invZ⟩)
    if keypoint.isFinite = false then return ⟨keypoint, .invalid, none⟩
    else
      let outcome := if c.sees keypoint then .visible else .outsideImage
      return ⟨keypoint, outcome, some (jacobiansAt k d p)⟩

def derivativesFrom {n : Nat} (k : Intrinsics α) (p : Vec3 α) (moved : Vec2 α) (inPoint : Mat 2 2 α)
    (inParameters : Mat 2 n α) : ProjectionJacobians n α :=
  let invZ := 1 / p.z
  let byPoint : Mat 2 3 α :=
    ⟨#v[#v[invZ, 0, -p.x * invZ * invZ], #v[0, invZ, -p.y * invZ * invZ]]⟩
  { point := k.focal * inPoint * byPoint
    intrinsics := ⟨#v[#v[moved.x, 0, 1, 0], #v[0, moved.y, 0, 1]]⟩
    distortion := k.focal * inParameters }

/-- Asks the lens for its matrices where the caller asks for derivatives, and leaves those as they
are where there is no pixel. -/
def projectInto (c : Pinhole α) (intrinsics distortion : List α) (p : Vec3 α)
    (slot : Option (ProjectionJacobians c.distortion.kind.count α)) :
    Except (Fault α) (Vec2 α × ProjectionOutcome × Option (ProjectionJacobians c.distortion.kind.count α)) := do
  let k ← Intrinsics.ofList? intrinsics
  if p.isFinite = false then return (Vec2.zero, .invalid, slot)
  else if p.z ≤ 0 then return (Vec2.zero, .behindCamera, slot)
  else
    let invZ := 1 / p.z
    let lens ← c.distortion.distortWith distortion ⟨p.x * invZ, p.y * invZ⟩
      (slot.map fun _ => Mat.identity) (slot.map fun _ => Mat.zero)
    let keypoint := k.pixel lens.moved
    if keypoint.isFinite = false then return (keypoint, .invalid, slot)
    else
      let outcome := if c.sees keypoint then .visible else .outsideImage
      return (keypoint, outcome, slot.map fun _ =>
        derivativesFrom k p lens.moved (lens.point.getD Mat.identity) (lens.parameters.getD Mat.zero))

def project (c : Pinhole α) (p : Vec3 α) :
    Except (Fault α) (Projection c.distortion.kind.count α) :=
  c.projectWith c.intrinsics.toList c.distortionParameters p

/-- The ray of depth one behind a pixel, none if the distortion cannot be undone. -/
def backProjectWith? (solve : Mat 2 2 α → Vec2 α → Option (Vec2 α)) (c : Pinhole α)
    (keypoint : Vec2 α) : Option (Vec3 α) :=
  (c.distortion.undistortWith? solve
    ⟨(keypoint.x - c.cx) / c.fx, (keypoint.y - c.cy) / c.fy⟩).map fun m => ⟨m.x, m.y, 1⟩

def backProject? (c : Pinhole α) (keypoint : Vec2 α) : Option (Vec3 α) :=
  c.backProjectWith? Mat.solve2? keypoint

end Pinhole

end LandmarkMap
