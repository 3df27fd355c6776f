import LandmarkMap.Geometry.Spectral
import LandmarkMap.Failure

set_option autoImplicit false

/-!
Linear triangulation: the point with the least sum of squared distances to the lines of sight.
-/

namespace LandmarkMap

structure Sight (α : Type) where
  bearing : Vec3 α
  center : Vec3 α

inductive TriangulationResult (α : Type) where
  | successful (position : Vec3 α)
  | tooFewMeasurements
  | unobservable
deriving DecidableEq

namespace TriangulationResult

variable {α : Type}

def position? : TriangulationResult α → Option (Vec3 α)
  | successful p => some p
  | tooFewMeasurements => none
  | unobservable => none

end TriangulationResult

namespace Sight

variable {α : Type} [Scalar α]

def isUsable (s : Sight α) : Bool :=
  decide (0 < s.bearing.norm) && Scalar.isFinite s.bearing.norm && s.center.isFinite

def projector (s : Sight α) : Mat 3 3 α :=
  let b := s.bearing.divide s.bearing.norm
  Mat.identity - b.outer b

end Sight

namespace Triangulation

variable {α : Type} [Scalar α]

def rankTolerance : α := 1e-10

structure Normal (α : Type) where
  matrix : Mat 3 3 α
  rhs : Vec3 α

def normal (sights : List (Sight α)) : Normal α :=
  sights.foldl
    (fun n s => ⟨n.matrix + s.projector, n.rhs + s.projector.act s.center⟩)
    ⟨Mat.zero, Vec3.zero⟩

def solve [Spectral α] (n : Normal α) : TriangulationResult α :=
  let d := Spectral.svd n.matrix
  if ¬ 0 < d.largest then .unobservable
  else if d.rank (rankTolerance * d.largest) < 3 then .unobservable
  else
    let p := d.solve n.rhs (rankTolerance * d.largest)
    if p.isFinite then .successful p else .unobservable

def ofSights [Spectral α] (sights : List (Sight α)) : TriangulationResult α :=
  let usable := sights.filter Sight.isUsable
  if usable.length < 2 then .tooFewMeasurements else solve (normal usable)

def linear [Spectral α] (bearings centers : List (Vec3 α)) :
    Except (Fault α) (TriangulationResult α) := do
  require (bearings.length = centers.length) .bearingCount
  return ofSights (bearings.zipWith Sight.mk centers)

end Triangulation

end LandmarkMap
