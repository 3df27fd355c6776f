import LandmarkMap.Quality.Metrics
import LandmarkMap.Map.Basic

set_option autoImplicit false

/-! Passes that label the landmarks of missions. -/

namespace LandmarkMap

def evaluateQuality {α : Type} [Scalar α] (g : PoseGraph α) (c : QualityConfig α) (l : Landmark α) :
    Except (Fault α) Quality := do
  return (← QualityMetrics.compute g l).classify c

/-- Whether a landmark is good by its label, or by evaluation where that is asked for or it has no
label yet. -/
def isWellConstrained {α : Type} [Scalar α] (g : PoseGraph α) (c : QualityConfig α) (l : Landmark α)
    (reEvaluate : Bool) : Except (Fault α) Bool := do
  if reEvaluate = false ∧ l.quality ≠ .unknown then return decide (l.quality = .good)
  else return decide ((← evaluateQuality g c l) = .good)

structure QualitySummary where
  unknown : Nat
  good : Nat
  bad : Nat
deriving DecidableEq, Repr

namespace QualitySummary

def ofLandmarks {α : Type} (landmarks : List (Landmark α)) : QualitySummary :=
  let count (q : Quality) : Nat := landmarks.countP fun l => decide (l.quality = q)
  ⟨count .unknown, count .good, count .bad⟩

def total (s : QualitySummary) : Nat := s.unknown + s.good + s.bad

end QualitySummary

namespace Map

variable {α : Type} [Scalar α]

def changeSelected (map : Map α) (p : Parallelism) (selected : Landmark α → Bool)
    (change : Landmark α → Except (Fault α) (Landmark α)) : Except (Fault α) (Map α) := do
  let landmarks ← mapBatches p.threadCount p.always
    (fun _ l => if selected l then change l else .ok l) map.landmarks
  return { map with landmarks }

def evaluateMissions (map : Map α) (c : QualityConfig α) (p : Parallelism) (ids : List MissionId) :
    Except (Fault α) (Map α × QualitySummary) := do
  map.requireMissions ids
  let selected (l : Landmark α) : Bool := ids.contains l.mission
  let after ← map.changeSelected p selected fun l => do
    return l.label (← evaluateQuality map.toPoseGraph c l)
  return (after, QualitySummary.ofLandmarks (after.landmarks.filter selected))

def evaluateAll (map : Map α) (c : QualityConfig α) (p : Parallelism) :
    Except (Fault α) (Map α × QualitySummary) :=
  map.evaluateMissions c p map.missionIds

def resetQuality (map : Map α) (p : Parallelism) (ids : List MissionId) :
    Except (Fault α) (Map α) := do
  map.requireMissions ids
  map.changeSelected p (fun l => ids.contains l.mission) fun l => .ok (l.label .unknown)

end Map

end LandmarkMap
