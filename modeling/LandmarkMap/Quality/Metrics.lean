import LandmarkMap.Config
import LandmarkMap.Geometry.Rays
import LandmarkMap.Map.PoseGraph

set_option autoImplicit false

/-!
How well a landmark is constrained by those who observe it: how many rays there are, how wide they
spread and how far the closest observer is.
-/

namespace LandmarkMap

structure ObserverRay (α : Type) where
  ray : Vec3 α
  depth : α

namespace ObserverRay

variable {α : Type} [Scalar α]

def length (r : ObserverRay α) : α := r.ray.norm

/-- Rays up to this length have no direction. -/
def minLength : α := 1e-12

def isUsable (r : ObserverRay α) : Bool := decide (minLength < r.length)

/-- The length, negative if the landmark lies behind the camera. -/
def signedLength (r : ObserverRay α) : α := if r.depth < 0 then -r.length else r.length

/-- The shorter of two rays, the first of two equally short ones. -/
def closer (best : Option (ObserverRay α)) (r : ObserverRay α) : Option (ObserverRay α) :=
  match best with
  | some b => if r.length < b.length then some r else some b
  | none => if Scalar.isFinite r.length then some r else none

def closest? (rays : List (ObserverRay α)) : Option (ObserverRay α) := rays.foldl closer none

end ObserverRay

/-- The distance is missing if no observer is at a finite distance. -/
structure QualityMetrics (α : Type) where
  observers : Nat
  signedDistance : Option α
  maxAngle : α

namespace QualityMetrics

variable {α : Type} [Scalar α]

def rayOf (g : PoseGraph α) (id : LandmarkId) (p : Vec3 α) (o : Observation) :
    Except (Fault α) (ObserverRay α) := do
  require (g.vertices.contains o.vertex = true) (.observerMissing id o.vertex)
  let camera ← g.cameraToGlobal o.vertex o.frame
  return ⟨camera.position - p, (camera.applyInverse p).z⟩

def ofRays (rays : List (ObserverRay α)) : QualityMetrics α :=
  let usable := rays.filter ObserverRay.isUsable
  { observers := usable.length
    signedDistance := (ObserverRay.closest? usable).map ObserverRay.signedLength
    maxAngle := Rays.maxAngle (usable.map (·.ray)) }

def compute (g : PoseGraph α) (l : Landmark α) : Except (Fault α) (QualityMetrics α) := do
  require (l.id.isValid = true) .invalidLandmarkId
  require (l.isTriangulated = true) (.evaluatingUntriangulated l.id)
  let p ← g.landmarkInGlobal l
  return ofRays (← l.observations.mapM fun o => rayOf g l.id p o)

/-- Whether a distance lies between two bounds, which a missing one does only below an infinite
bound. -/
def distanceWithin (nearest farthest : α) : Option α → Bool
  | some d => decide (nearest ≤ d) && decide (d ≤ farthest)
  | none => nearest == nearest && (decide (0 < farthest) && !Scalar.isFinite farthest)

def classify (m : QualityMetrics α) (c : QualityConfig α) : Quality :=
  if m.observers = 0 ∨ m.observers < c.minObservers then .bad
  else if distanceWithin c.minDistance c.maxDistance m.signedDistance = false then .bad
  else if m.maxAngle < Scalar.radians c.minAngleDegrees then .bad
  else .good

end QualityMetrics

end LandmarkMap
