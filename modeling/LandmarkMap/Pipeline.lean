import LandmarkMap.Scene.Synthetic
import LandmarkMap.Scene.Corruption
import LandmarkMap.Triangulation.Retriangulation
import LandmarkMap.Quality.Evaluation
import LandmarkMap.Solver.LandmarkBlocks
import LandmarkMap.Geometry.Decomposition
import LandmarkMap.Cloud
import LandmarkMap.Config.Decode

set_option autoImplicit false

/-!
The whole way of a synthetic map: build it, disturb its landmarks, triangulate them anew, judge
them, and collect the residuals and the cloud of the good ones.
-/

namespace LandmarkMap

structure PipelineReport (α : Type) [Scalar α] where
  map : Map α
  truth : List (LandmarkId × Vec3 α)
  corrupted : Nat
  triangulation : TriangulationSummary
  quality : QualitySummary
  residuals : List (Option (Vec2 α))
  cloud : Cloud α

namespace PipelineReport

variable {α : Type} [Scalar α]

def goodLandmarks (r : PipelineReport α) : List (Landmark α) :=
  r.map.landmarks.filter fun l => decide (l.quality = .good)

def error? (r : PipelineReport α) (l : Landmark α) : Option α :=
  match l.position, r.truth.find? fun t => decide (t.1 = l.id) with
  | some p, some (_, q) => some (p - q).norm
  | _, _ => none

def recoveredWithin (r : PipelineReport α) (bound : α) : Bool :=
  r.goodLandmarks.all fun l =>
    match r.error? l with
    | some e => decide (e < bound)
    | none => true

def residualCount (r : PipelineReport α) : Nat := (r.residuals.filterMap id).length

def failureCount (r : PipelineReport α) : Nat := r.residuals.length - r.residualCount

def residualsWithin (r : PipelineReport α) (bound : α) : Bool :=
  (r.residuals.filterMap id).all fun v => decide (v.norm < bound)

def cloudLine (r : PipelineReport α) : String :=
  "point cloud: " ++ toString r.cloud.size ++ " of " ++ toString r.map.landmarks.length ++
    " landmarks (" ++ toString r.quality.good ++ " good, " ++ toString r.quality.bad ++ " bad, " ++
    toString r.quality.unknown ++ " unknown)"

end PipelineReport

def runPipeline {α : Type} [Scalar α] [Spectral α] (c : Config α) (threads : Nat)
    (random : Nat → RandomSource α) (scene : Scene α) : Except (Failure α) (PipelineReport α) := do
  let ids := scene.map.missionIds
  let parallel := c.parallel.on threads
  let (map, corrupted) ← (scene.map.corrupt (random c.corruption.seed) c.corruption.stdDev
    (max 1 c.corruption.everyNth) : Except (Fault α) _)
  let map ← (map.resetQuality parallel ids : Except (Fault α) _)
  let (map, triangulation) ← (map.retriangulateMissions parallel ids : Except (Fault α) _)
  let (map, quality) ← (map.evaluateMissions c.quality parallel ids : Except (Fault α) _)
  let good := map.landmarks.filter fun l => decide (l.quality = .good)
  let residuals ← good.flatMapM fun l => do
    let blocks ← map.residualBlocks c.visual l.id
    blocks.mapM fun b => (b.residual? : Except (Fault α) _)
  let cloud ← (map.cloud true : Except (Fault α) _)
  return { map, truth := scene.truth, corrupted, triangulation, quality, residuals, cloud }

structure CommandResult where
  exitCode : UInt32
  lines : List String
  errorLine : Option String
  report : Option (PipelineReport Float)

def runCommand (reader : NumberReader) (threads : Nat) (file : Option (String × Option String)) :
    CommandResult :=
  let config : Except ConfigFileRefusal (Config Float) :=
    match file with
    | some (_, contents) => Config.ofFile reader contents
    | none => .ok default
  let path := (file.map (·.1)).getD ""
  let fail (failure : Failure Float) (context : Option String) : CommandResult :=
    match failure with
    | .error cause =>
        let text := cause.message scalarText
        ⟨1, [text], some ("Error: " ++ context.getD text), none⟩
    | .fault cause => ⟨101, [cause.message scalarText], none, none⟩
  match config with
  | .error .unreadable =>
      ⟨1, [], some ("Error: " ++ ConfigFileRefusal.context path .unreadable), none⟩
  | .error (.refused cause) =>
      ⟨1, [cause.message scalarText],
        some ("Error: " ++ ConfigFileRefusal.context path (.refused cause)), none⟩
  | .ok c =>
      match Scene.build c.scene (RandomSource.ofSeed c.scene.seed) with
      | .error failure => fail failure (some "failed to build synthetic dataset")
      | .ok scene =>
          match runPipeline c threads RandomSource.ofSeed scene with
          | .error failure => fail failure none
          | .ok report => ⟨0, [report.cloudLine], none, some report⟩

end LandmarkMap
