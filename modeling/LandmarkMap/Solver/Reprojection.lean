import LandmarkMap.Solver.CostTerm
import LandmarkMap.Geometry.Bearing
import LandmarkMap.Camera.Pinhole
import LandmarkMap.Geometry.Pose

set_option autoImplicit false

/-!
Reprojection errors of landmarks given by anchor, bearing and inverse depth. Blocks: anchor (3),
bearing (4), inverse depth (1), body rotation (4), body position (3), if they are optimized the
rotation (4) and position (3) of the camera on the body, intrinsics (4), and the distortion
parameters if the camera has any.
-/

namespace LandmarkMap

inductive Extrinsics (α : Type) where
  | optimized
  | fixed (pose : Pose α)

structure ReprojectionError (α : Type) [Scalar α] where
  measurement : Vec2 α
  pixelSigma : α
  positive : 0 < pixelSigma
  camera : Pinhole α
  extrinsics : Extrinsics α

structure ReprojectionState (α : Type) where
  anchor : Vec3 α
  bearing : Quaternion α
  inverseDepth : α
  bodyRotation : Quaternion α
  bodyPosition : Vec3 α
  cameraRotation : Quaternion α
  cameraPosition : Vec3 α
  intrinsics : List α
  distortion : List α

namespace ReprojectionState

variable {α : Type} [Scalar α]

def direction (s : ReprojectionState α) : Vec3 α := Bearing.directionOf s.bearing

def offset (s : ReprojectionState α) : Vec3 α :=
  s.anchor + s.direction.divide s.inverseDepth - s.bodyPosition

def bodyMat (s : ReprojectionState α) : Mat 3 3 α := s.bodyRotation.normalize.toMat

def cameraMat (s : ReprojectionState α) : Mat 3 3 α := s.cameraRotation.normalize.toMat

def inBody (s : ReprojectionState α) : Vec3 α := s.bodyMat.transpose.act s.offset

def inCamera (s : ReprojectionState α) : Vec3 α := s.cameraMat.act s.inBody + s.cameraPosition

end ReprojectionState

namespace ReprojectionError

variable {α : Type} [Scalar α]

def create (measurement : Vec2 α) (pixelSigma : α) (camera : Pinhole α)
    (extrinsics : Extrinsics α) : Except (Fault α) (ReprojectionError α) :=
  if positive : 0 < pixelSigma then .ok ⟨measurement, pixelSigma, positive, camera, extrinsics⟩
  else .error .pixelSigma

def intrinsicsBlock (e : ReprojectionError α) : Nat :=
  match e.extrinsics with
  | .optimized => 7
  | .fixed _ => 5

def blockSizes (e : ReprojectionError α) : List Nat :=
  let count := e.camera.distortion.kind.count
  [3, 4, 1, 4, 3] ++
    (match e.extrinsics with
      | .optimized => [4, 3]
      | .fixed _ => []) ++
    [4] ++ (if 0 < count then [count] else [])

def distortionBlock (e : ReprojectionError α) : Option Nat :=
  if e.intrinsicsBlock + 1 < e.blockSizes.length then some (e.intrinsicsBlock + 1) else none

def bearingTolerance : α := 1e-8

def readExtrinsics (e : ReprojectionError α) (parameters : List (List α)) :
    Except (Fault α) (Quaternion α × Vec3 α) := do
  match e.extrinsics with
  | .optimized =>
      let q ← Block.quaternion (← fetch parameters 5)
      let p ← Block.vector (← fetch parameters 6)
      return (q, p)
  | .fixed pose => return (pose.rotation, pose.position)

/-- The state that the blocks describe, none where no residual is defined. -/
def readState? (e : ReprojectionError α) (parameters : List (List α)) :
    Except (Fault α) (Option (ReprojectionState α)) := do
  if parameters.all (·.all Scalar.isFinite) = false then return none
  let anchor ← Block.vector (← fetch parameters 0)
  let bearing ← Block.quaternion (← fetch parameters 1)
  let inverseDepth ← fetch (← fetch parameters 2) 0
  if ¬ 0 < inverseDepth then return none
  let bodyRotation ← Block.quaternion (← fetch parameters 3)
  let bodyPosition ← Block.vector (← fetch parameters 4)
  let (cameraRotation, cameraPosition) ← e.readExtrinsics parameters
  if ¬ (0 < bodyRotation.norm ∧ 0 < cameraRotation.norm) then return none
  if ¬ bearingTolerance < bearing.norm then return none
  let intrinsics ← fetch parameters e.intrinsicsBlock
  let distortion ← match e.distortionBlock with
    | some block => fetch parameters block
    | none => pure []
  return some { anchor, bearing, inverseDepth, bodyRotation, bodyPosition, cameraRotation,
                cameraPosition, intrinsics, distortion }

def byCameraPoint {k : Nat} (e : ReprojectionError α) (p : ProjectionJacobians k α) : Mat 2 3 α :=
  p.point.scale (1 / e.pixelSigma)

def byMissionPoint {k : Nat} (e : ReprojectionError α) (s : ReprojectionState α)
    (p : ProjectionJacobians k α) : Mat 2 3 α :=
  e.byCameraPoint p * (s.cameraMat * s.bodyMat.transpose)

def bearingJacobian {k : Nat} (e : ReprojectionError α) (s : ReprojectionState α)
    (p : ProjectionJacobians k α) : Mat 2 4 α :=
  (e.byMissionPoint s p * Bearing.directionJacobian s.bearing).divide s.inverseDepth

def inverseDepthJacobian {k : Nat} (e : ReprojectionError α) (s : ReprojectionState α)
    (p : ProjectionJacobians k α) : Mat 2 1 α :=
  e.byMissionPoint s p * ((-s.direction).divide (s.inverseDepth * s.inverseDepth)).toColumn

def bodyRotationJacobian {k : Nat} (e : ReprojectionError α) (s : ReprojectionState α)
    (p : ProjectionJacobians k α) : Mat 2 4 α :=
  Quaternion.lift (e.byCameraPoint p * s.cameraMat * s.bodyMat.transpose * s.offset.skew)
    s.bodyRotation

def cameraRotationJacobian {k : Nat} (e : ReprojectionError α) (s : ReprojectionState α)
    (p : ProjectionJacobians k α) : Mat 2 4 α :=
  Quaternion.lift (e.byCameraPoint p * -(s.cameraMat.act s.inBody).skew) s.cameraRotation

def fillSlots {k : Nat} (e : ReprojectionError α) (s : ReprojectionState α)
    (p : ProjectionJacobians k α) (slots : List (Option (List α))) :
    Except (Fault α) (List (Option (List α))) := do
  let inverseSigma := 1 / e.pixelSigma
  let slots ← fillSlot slots 0 (e.byMissionPoint s p)
  let slots ← fillSlot slots 1 (e.bearingJacobian s p)
  let slots ← fillSlot slots 2 (e.inverseDepthJacobian s p)
  let slots ← fillSlot slots 3 (e.bodyRotationJacobian s p)
  let slots ← fillSlot slots 4 (-e.byMissionPoint s p)
  let slots ← match e.extrinsics with
    | .optimized => do
        let slots ← fillSlot slots 5 (e.cameraRotationJacobian s p)
        fillSlot slots 6 (e.byCameraPoint p)
    | .fixed _ => pure slots
  let slots ← fillSlot slots e.intrinsicsBlock (p.intrinsics.scale inverseSigma)
  match e.distortionBlock with
  | some block => fillSlot slots block (p.distortion.scale inverseSigma)
  | none => return slots

def evaluate (e : ReprojectionError α) (parameters : List (List α)) (buffers : Buffers α) :
    Except (Fault α) (Bool × Buffers α) := do
  match ← e.readState? parameters with
  | none => return (false, buffers)
  | some state =>
      let asked := buffers.jacobians.map fun _ => ProjectionJacobians.zeros
      let (keypoint, outcome, derivatives) ←
        e.camera.projectInto state.intrinsics state.distortion state.inCamera asked
      if outcome.isValid = false then return (false, buffers)
      else
        let error := (keypoint - e.measurement).divide e.pixelSigma
        let residuals ← Block.writeFront error.toList buffers.residuals
        match buffers.jacobians, derivatives with
        | some slots, some derivatives =>
            return (true, ⟨residuals, some (← e.fillSlots state derivatives slots)⟩)
        | slots, _ => return (true, ⟨residuals, slots⟩)

def term (e : ReprojectionError α) : CostTerm α := ⟨2, e.blockSizes, e.evaluate⟩

end ReprojectionError

structure ResidualBlock (α : Type) [Scalar α] where
  error : ReprojectionError α
  parameters : List (List α)

def ResidualBlock.residual? {α : Type} [Scalar α] (b : ResidualBlock α) :
    Except (Fault α) (Option (Vec2 α)) := do
  let (accepted, buffers) ← b.error.evaluate b.parameters (Buffers.plain 2)
  match accepted, buffers.residuals with
  | true, x :: y :: _ => return some ⟨x, y⟩
  | _, _ => return none

end LandmarkMap
