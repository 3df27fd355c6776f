import LandmarkMap.Map.Basic
import LandmarkMap.Geometry.Spectral

set_option autoImplicit false

/-!
Questions about the geometry of a map: how deep a frame looks, which vertices are near, and how the
vertices of a mission are spread.
-/

namespace LandmarkMap.Map

variable {α : Type} [Scalar α]

/-- The element of rank half the length, counted from zero in ascending order. -/
def upperMedian? (xs : List α) : Option α := (xs.mergeSort Scalar.totalLe)[xs.length / 2]?

def squaredDepth? (map : Map α) (center : Vec3 α) (id : LandmarkId) :
    Except (Fault α) (Option α) := do
  if id.isValid = false then return none
  else
    let landmark ← map.landmark id
    if landmark.quality ≠ .good then return none
    else return some ((← map.landmarkInGlobal landmark) - center).normSq

def medianDepth? (map : Map α) (vertex : VertexId) (frame : Nat) : Except (Fault α) (Option α) := do
  let center := (← map.cameraToGlobal vertex frame).position
  let ids ← map.frameLandmarks vertex frame
  let depths ← ids.mapM fun id => map.squaredDepth? center id
  return (upperMedian? (depths.filterMap id)).map Scalar.sqrt

def neighbours (map : Map α) (id : VertexId) (range : α) : Except (Fault α) (List VertexId) := do
  let vertex ← map.vertex id
  let mission ← map.mission vertex.mission
  let near ← mission.vertices.filterMapM fun other => do
    let distance := ((← map.vertex other).position - vertex.position).norm
    return if distance < range then some other else none
  return Id.sort near

def mean (ps : List (Vec3 α)) : Vec3 α := (Vec3.sum ps).divide (Scalar.ofNat ps.length)

/-- The sum of the squared deviations from the mean, divided by one less than their number if there
are several. -/
def covariance (ps : List (Vec3 α)) : Mat 3 3 α :=
  let m := mean ps
  let total := ps.foldl (fun c p => c + (p - m).outer (p - m)) Mat.zero
  if 1 < ps.length then total.divide (Scalar.ofNat ps.length - 1) else total

def principalAxes [Spectral α] (map : Map α) (id : MissionId) : Except (Fault α) (Eigen α) := do
  let ps ← map.vertexPositions id
  require (ps ≠ []) (.missionEmpty id)
  return (Spectral.eigen (covariance ps)).ascending

def rootToMean (map : Map α) (id : MissionId) : Except (Fault α) (Vec3 α) := do
  let ps ← map.vertexPositions id
  require (ps ≠ []) (.missionEmpty id)
  return mean ps - (← map.bodyToGlobal (← map.mission id).root).position

end LandmarkMap.Map
