import LandmarkMap.Word
import LandmarkMap.Geometry.Vec

set_option autoImplicit false

/-! Landmarks: where they are, who observed them and how well they are constrained. -/

namespace LandmarkMap

inductive Quality where
  | unknown
  | good
  | bad
deriving DecidableEq, Repr

structure Observation where
  vertex : VertexId
  frame : Nat
  keypoint : Nat
deriving DecidableEq, Repr

structure Landmark (α : Type) where
  id : LandmarkId
  mission : MissionId
  position : Option (Vec3 α)
  quality : Quality
  observations : List Observation

namespace Landmark

variable {α : Type}

def create (id : LandmarkId) (mission : MissionId) : Except (Fault α) (Landmark α) := do
  require (id.isValid = true) .unusableLandmarkId
  return ⟨id, mission, none, .unknown, []⟩

/-- A list has room for no more landmarks than this, at ten words each. -/
def most : Nat := Word.listBytes / 80

def isTriangulated (l : Landmark α) : Bool := l.position.isSome

def place (l : Landmark α) (p : Vec3 α) : Landmark α :=
  { l with position := some p, quality := .unknown }

def label (l : Landmark α) (quality : Quality) : Landmark α := { l with quality }

def observe (l : Landmark α) (o : Observation) : Landmark α :=
  { l with observations := l.observations ++ [o] }

def observerCount (l : Landmark α) : Nat := (l.observations.map (·.vertex)).eraseDups.length

end Landmark

end LandmarkMap
