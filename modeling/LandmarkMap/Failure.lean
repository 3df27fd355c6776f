import LandmarkMap.Map.Id

set_option autoImplicit false

/-!
What can go wrong. An `Error` depends on the data and leaves the caller a choice; a `Fault` is a
call that was not allowed. Both carry causes, and their wording is `Error.message` and
`Fault.message`, which take the text of a scalar as an argument.
-/

namespace LandmarkMap

inductive CameraDefect (α : Type) where
  | focalLength (fx fy : α)
  | imageSize

inductive ConfigDefect (α : Type) where
  | noObservers
  | negativeAngle (degrees : α)
  | emptyDistances (nearest farthest : α)
  | emptyScene
  | depthRanges
  | noiseOrPeriod

inductive Error (α : Type) where
  | invalidCovariance
  | degenerateBearing
  | landmarkAtAnchor
  | invalidCamera (defect : CameraDefect α)
  | invalidConfig (defect : ConfigDefect α)
  | evaluationFailed

inductive Fault (α : Type) where
  | indexOutOfBounds
  | subtractionOverflow
  | additionOverflow
  | multiplicationOverflow
  | listTooLong
  | tableTooLarge
  | quaternionBlockLength
  | vectorBlockLength
  | jacobianBufferLength
  | bufferLength
  | blockCopyLength
  | productShape
  | nonPositiveInverseDepth (value : α)
  | zeroRayDirection
  | distortionParameterCount
  | intrinsicsCount
  | rigLength
  | pixelSigma
  | parameterizationCount
  | parameterizationSize
  | parameterBlockCount
  | emptyParameterBlock
  | bearingCount
  | noThreads
  | zeroStride
  | emptyRange
  | unboundedRange
  | openRangeOverflow
  | closedRangeOverflow
  | unusableMissionId
  | unusableVertexId
  | unusableLandmarkId
  | invalidLandmarkId
  | missionExists (id : MissionId)
  | vertexExists (id : VertexId)
  | landmarkExists (id : LandmarkId)
  | missionMissing (id : MissionId)
  | vertexMissing (id : VertexId)
  | landmarkMissing (id : LandmarkId)
  | vertexMissionMissing (id : VertexId) (mission : MissionId)
  | landmarkMissionMissing (id : LandmarkId)
  | frameCount
  | positionMissing (id : LandmarkId)
  | anchoringUntriangulated (id : LandmarkId)
  | evaluatingUntriangulated (id : LandmarkId)
  | observerMissing (id : LandmarkId) (observer : VertexId)
  | missionEmpty (id : MissionId)
  | noTimestamps

inductive Failure (α : Type) where
  | error (cause : Error α)
  | fault (cause : Fault α)

namespace CameraDefect

def message {α : Type} (text : α → String) : CameraDefect α → String
  | focalLength fx fy =>
      "focal lengths must be positive, got fx=" ++ text fx ++ " fy=" ++ text fy
  | imageSize => "image size must be non-zero"

end CameraDefect

namespace ConfigDefect

def message {α : Type} (text : α → String) : ConfigDefect α → String
  | noObservers => "min_observers must be >= 1"
  | negativeAngle degrees =>
      "min_observation_angle_deg must be non-negative, got " ++ text degrees
  | emptyDistances nearest farthest =>
      "distance bounds [" ++ text nearest ++ ", " ++ text farthest ++ "] are empty"
  | emptyScene => "synthetic dataset needs at least one vertex and one camera"
  | depthRanges => "depth ranges must be positive and ordered"
  | noiseOrPeriod => "pixel noise must be non-negative and vertex period positive"

end ConfigDefect

namespace Error

def message {α : Type} (text : α → String) : Error α → String
  | invalidCovariance => "covariance matrix is not symmetric positive definite"
  | degenerateBearing => "bearing vector has zero or non-finite norm"
  | landmarkAtAnchor => "landmark coincides with its anchor position"
  | invalidCamera defect => "invalid camera parameters: " ++ defect.message text
  | invalidConfig defect => "invalid configuration: " ++ defect.message text
  | evaluationFailed => "cost function evaluation failed"

end Error

namespace Fault

def message {α : Type} (text : α → String) : Fault α → String
  | indexOutOfBounds => "index out of bounds"
  | subtractionOverflow => "attempt to subtract with overflow"
  | additionOverflow => "attempt to add with overflow"
  | multiplicationOverflow => "attempt to multiply with overflow"
  | listTooLong => "capacity overflow"
  | tableTooLarge => "Hash table capacity overflow"
  | quaternionBlockLength => "quaternion block needs 4 values"
  | vectorBlockLength => "vector block needs 3 values"
  | jacobianBufferLength => "jacobian buffer has wrong size"
  | bufferLength => "buffer has wrong size"
  | blockCopyLength => "source and destination blocks have different lengths"
  | productShape => "Gemv: dimensions mismatch."
  | nonPositiveInverseDepth value => "inverse depth must be positive, got " ++ text value
  | zeroRayDirection => "ray direction must be non-zero"
  | distortionParameterCount => "distortion parameter count mismatch"
  | intrinsicsCount => "pinhole intrinsics are [fx, fy, cx, cy]"
  | rigLength => "each camera in the rig needs exactly one extrinsic"
  | pixelSigma => "pixel sigma must be positive"
  | parameterizationCount => "one parameterization slot per parameter block"
  | parameterizationSize => "parameterization size mismatch"
  | parameterBlockCount => "wrong number of parameter blocks"
  | emptyParameterBlock => "parameter block size must be positive"
  | bearingCount => "every bearing needs a camera position"
  | noThreads => "num_threads must be positive"
  | zeroStride => "every_nth must be positive"
  | emptyRange => "cannot sample empty range"
  | unboundedRange => "Uniform::new_inclusive called with `high` non-finite."
  | openRangeOverflow => "UniformSampler::sample_single: range overflow"
  | closedRangeOverflow => "Uniform::new_inclusive: range overflow"
  | unusableMissionId => "mission id must be valid"
  | unusableVertexId => "vertex id must be valid"
  | unusableLandmarkId => "landmark id must be valid"
  | invalidLandmarkId => "invalid landmark id"
  | missionExists id => "mission " ++ id.text ++ " already exists"
  | vertexExists id => "vertex " ++ id.text ++ " already exists"
  | landmarkExists id => "landmark " ++ id.text ++ " already exists"
  | missionMissing id => "mission " ++ id.text ++ " does not exist"
  | vertexMissing id => "vertex " ++ id.text ++ " does not exist"
  | landmarkMissing id => "landmark " ++ id.text ++ " does not exist"
  | vertexMissionMissing id mission =>
      "vertex " ++ id.text ++ " refers to unknown mission " ++ mission.text
  | landmarkMissionMissing id => "landmark " ++ id.text ++ " refers to unknown mission"
  | frameCount => "vertex frames must match the camera rig"
  | positionMissing id => "landmark " ++ id.text ++ " has not been triangulated"
  | anchoringUntriangulated id => "landmark " ++ id.text ++ " must be triangulated"
  | evaluatingUntriangulated id =>
      "landmark " ++ id.text ++ " must be triangulated before evaluating its quality"
  | observerMissing id observer =>
      "landmark " ++ id.text ++ " is observed by unknown vertex " ++ observer.text
  | missionEmpty id => "mission " ++ id.text ++ " has no vertices"
  | noTimestamps => "no timestamps to interpolate"

end Fault

namespace Failure

variable {α : Type}

def message (text : α → String) : Failure α → String
  | error cause => cause.message text
  | fault cause => cause.message text

end Failure

instance {α : Type} : MonadLift (Except (Error α)) (Except (Failure α)) :=
  ⟨fun run => run.mapError Failure.error⟩

instance {α : Type} : MonadLift (Except (Fault α)) (Except (Failure α)) :=
  ⟨fun run => run.mapError Failure.fault⟩

def fetch {α τ : Type} (items : List τ) (i : Nat) : Except (Fault α) τ :=
  match items[i]? with
  | some item => .ok item
  | none => .error .indexOutOfBounds

def require {α : Type} (condition : Prop) [Decidable condition] (fault : Fault α) :
    Except (Fault α) Unit :=
  if condition then .ok () else .error fault

end LandmarkMap
