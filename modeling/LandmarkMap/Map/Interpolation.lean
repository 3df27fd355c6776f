import LandmarkMap.Map.Basic

set_option autoImplicit false

/-! Poses of the body between the vertices of a mission. -/

namespace LandmarkMap

structure PoseSample (α : Type) where
  time : Timestamp
  pose : Pose α

namespace PoseSample

variable {α : Type} [Scalar α]

def at? (samples : List (PoseSample α)) (t : Timestamp) : Except (Fault α) (Pose α) := do
  let past := samples.takeWhile fun s => s.time.precedes t
  match past.getLast?, samples.drop past.length with
  | none, _ => throw .indexOutOfBounds
  | some last, [] => return last.pose
  | some a, b :: _ =>
      let alpha := (← t.since a.time) / (← b.time.since a.time)
      return a.pose.interpolate b.pose alpha

def allAt? (samples : List (PoseSample α)) (first last : Timestamp) :
    List Timestamp → Except (Fault α) (Option (List (Pose α)))
  | [] => return some []
  | t :: rest => do
      if ¬ (first.precedes t = true ∧ t.precedes last = true) then return none
      else
        let pose ← at? samples t
        return (← allAt? samples first last rest).map (pose :: ·)

end PoseSample

namespace Map

variable {α : Type} [Scalar α]

/-- The samples of a mission in ascending order of time; those of one time keep their order. -/
def samples (map : Map α) (mission : Mission α) : Except (Fault α) (List (PoseSample α)) := do
  let unsorted ← mission.vertices.mapM fun id => do
    let vertex ← map.vertex id
    return (⟨vertex.time, vertex.state.pose⟩ : PoseSample α)
  return unsorted.mergeSort fun a b => a.time.precedes b.time

/-- The poses of the body in the world at the given times, none if one of them lies before the first
or after the last vertex of the mission. -/
def interpolate? (map : Map α) (id : MissionId) (times : List Timestamp) :
    Except (Fault α) (Option (List (Pose α))) := do
  require (times ≠ []) .noTimestamps
  let mission ← map.mission id
  let samples ← map.samples mission
  match samples.head?, samples.getLast? with
  | some first, some last =>
      let poses ← PoseSample.allAt? samples first.time last.time times
      return poses.map (·.map (mission.toGlobal * ·))
  | _, _ => throw (.missionEmpty id)

end Map

end LandmarkMap
