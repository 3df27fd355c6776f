import LandmarkMap.Map.Basic
import LandmarkMap.Json.Value

set_option autoImplicit false

/-!
Point clouds as flat channels: coordinates of all points, and colours, scalars and normals, each of
which may be missing as a whole.
-/

namespace LandmarkMap

structure Cloud (α : Type) where
  xyz : List α
  colors : List UInt8
  scalars : List α
  normals : List α

namespace Cloud

variable {α : Type}

def empty : Cloud α := ⟨[], [], [], []⟩

def withRoom (points : Nat) : Except (Fault α) (Cloud α) := do
  Word.reserve (← Word.mul 3 points) 8
  return empty

def size (c : Cloud α) : Nat := c.xyz.length / 3

def isEmpty (c : Cloud α) : Bool := c.xyz.isEmpty

def push (c : Cloud α) (p : Vec3 α) : Cloud α := { c with xyz := c.xyz ++ p.toList }

def point (c : Cloud α) (i : Nat) : Except (Fault α) (Vec3 α) := do
  let first ← Word.mul 3 i
  let _ ← Word.add first 3
  match c.xyz.drop first with
  | x :: y :: z :: _ => return ⟨x, y, z⟩
  | _ => throw .indexOutOfBounds

def triples : List α → List (Vec3 α)
  | x :: y :: z :: rest => ⟨x, y, z⟩ :: triples rest
  | _ => []

/-- All points; coordinates left over at the end belong to none. -/
def points (c : Cloud α) : List (Vec3 α) := triples c.xyz

def isConsistent (c : Cloud α) : Bool :=
  decide (c.xyz.length % 3 = 0) &&
    (c.colors.isEmpty || decide (c.colors.length = 3 * c.size)) &&
    (c.scalars.isEmpty || decide (c.scalars.length = c.size)) &&
    (c.normals.isEmpty || decide (c.normals.length = 3 * c.size))

def centroid? [Scalar α] (c : Cloud α) : Option (Vec3 α) :=
  if c.isEmpty then none else some ((Vec3.sum c.points).divide (Scalar.ofNat c.size))

def toJson (c : Cloud Float) : Json :=
  .object
    [(some "xyz", .array (c.xyz.map Json.ofFloat)),
      (some "colors", .array (c.colors.map fun v => Json.ofNat v.toNat)),
      (some "scalars", .array (c.scalars.map Json.ofFloat)),
      (some "normals", .array (c.normals.map Json.ofFloat))]

end Cloud

def Quality.color : Quality → List UInt8
  | good => [0, 200, 0]
  | bad => [200, 0, 0]
  | unknown => [128, 128, 128]

namespace Map

variable {α : Type} [Scalar α]

def pushLandmark (map : Map α) (c : Cloud α) (l : Landmark α) : Except (Fault α) (Cloud α) := do
  let c := c.push (← map.landmarkInGlobal l)
  return { c with
    colors := c.colors ++ l.quality.color
    scalars := c.scalars ++ [Scalar.ofNat l.observations.length] }

/-- The triangulated landmarks in the world, all of them or only the good ones. There is room for as
many points as there are landmarks, of which a list holds only so many. -/
def cloud (map : Map α) (onlyGood : Bool) : Except (Fault α) (Cloud α) := do
  let room ← Cloud.withRoom (min map.landmarks.length Landmark.most)
  let shown := map.landmarks.filter fun l =>
    l.isTriangulated && (!onlyGood || decide (l.quality = .good))
  shown.foldlM (fun c l => map.pushLandmark c l) room

end Map

end LandmarkMap
