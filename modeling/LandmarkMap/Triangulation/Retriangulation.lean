import LandmarkMap.Triangulation.Linear
import LandmarkMap.Map.Basic
import LandmarkMap.Config

set_option autoImplicit false

/-!
Passes that triangulate landmarks anew from all their observations. A landmark moves only where the
triangulation succeeds.
-/

namespace LandmarkMap

def sightOf? {α : Type} [Scalar α] (g : PoseGraph α) (o : Observation) :
    Except (Fault α) (Option (Sight α)) := do
  let vertex ← g.vertex o.vertex
  let mission ← g.mission vertex.mission
  let keypoint ← fetch (← vertex.frame o.frame).keypoints o.keypoint
  let mount ← mission.rig.mount o.frame
  match mount.camera.backProject? keypoint with
  | none => return none
  | some ray =>
      let camera ← g.cameraToGlobal o.vertex o.frame
      return some ⟨camera.rotation.rotate ray, camera.position⟩

structure Sightings (α : Type) where
  bearings : List (Vec3 α)
  centers : List (Vec3 α)

def Sightings.add {α : Type} (s : Sightings α) (sight : Sight α) : Sightings α :=
  ⟨s.bearings ++ [sight.bearing], s.centers ++ [sight.center]⟩

/-- The lines of sight of a landmark; a keypoint without a ray adds to neither list. -/
def sightingsOf {α : Type} [Scalar α] (g : PoseGraph α) (l : Landmark α) :
    Except (Fault α) (Sightings α) :=
  l.observations.foldlM (fun s o => do
    match ← sightOf? g o with
    | some sight => return s.add sight
    | none => return s) ⟨[], []⟩

def retriangulate {α : Type} [Scalar α] [Spectral α] (g : PoseGraph α) (l : Landmark α) :
    Except (Fault α) (Landmark α × TriangulationResult α) := do
  let sightings ← sightingsOf g l
  let result ← Triangulation.linear sightings.bearings sightings.centers
  match result with
  | .successful p => return (l.place ((← g.missionToGlobal l.mission).applyInverse p), result)
  | .tooFewMeasurements => return (l, result)
  | .unobservable => return (l, result)

structure TriangulationSummary where
  successful : Nat
  tooFew : Nat
  unobservable : Nat
deriving DecidableEq, Repr

namespace TriangulationSummary

def ofResults {α : Type} (results : List (TriangulationResult α)) : TriangulationSummary :=
  { successful := results.countP fun r => match r with
      | .successful _ => true
      | _ => false
    tooFew := results.countP fun r => match r with
      | .tooFewMeasurements => true
      | _ => false
    unobservable := results.countP fun r => match r with
      | .unobservable => true
      | _ => false }

def total (s : TriangulationSummary) : Nat := s.successful + s.tooFew + s.unobservable

end TriangulationSummary

namespace Map

variable {α : Type} [Scalar α] [Spectral α]

def retriangulateSelected (map : Map α) (p : Parallelism) (selected : Landmark α → Bool) :
    Except (Fault α) (Map α × TriangulationSummary) := do
  let outcomes ← mapBatches p.threadCount p.always
    (fun _ l =>
      if selected l then (retriangulate map.toPoseGraph l).map fun (l, r) => (l, some r)
      else .ok (l, none))
    map.landmarks
  return ({ map with landmarks := outcomes.map (·.1) },
    TriangulationSummary.ofResults (outcomes.filterMap (·.2)))

def retriangulateOne (map : Map α) (id : LandmarkId) :
    Except (Fault α) (Map α × TriangulationResult α) := do
  let i ← map.slot id
  let (landmark, result) ← retriangulate map.toPoseGraph (← map.landmark id)
  return ({ map with landmarks := map.landmarks.set i landmark }, result)

def retriangulateAll (map : Map α) (p : Parallelism) :
    Except (Fault α) (Map α × TriangulationSummary) :=
  map.retriangulateSelected p fun _ => true

def retriangulateMissions (map : Map α) (p : Parallelism) (ids : List MissionId) :
    Except (Fault α) (Map α × TriangulationSummary) := do
  map.requireMissions ids
  map.retriangulateSelected p fun l => ids.contains l.mission

def retriangulateMission (map : Map α) (p : Parallelism) (id : MissionId) :
    Except (Fault α) (Map α × TriangulationSummary) :=
  map.retriangulateMissions p [id]

def retriangulateVertex (map : Map α) (p : Parallelism) (id : VertexId) :
    Except (Fault α) (Map α × TriangulationSummary) := do
  let observed := (← map.vertex id).landmarks
  map.retriangulateSelected p fun l => observed.contains l.id

end Map

end LandmarkMap
