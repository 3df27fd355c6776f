import LandmarkMap.Scalar

set_option autoImplicit false

/-! Vectors of the plane and of space. -/

namespace LandmarkMap

structure Vec2 (α : Type) where
  x : α
  y : α
deriving Repr, DecidableEq

structure Vec3 (α : Type) where
  x : α
  y : α
  z : α
deriving Repr, DecidableEq

namespace Vec2

variable {α : Type} [Scalar α]

def zero : Vec2 α := ⟨0, 0⟩

instance : Add (Vec2 α) := ⟨fun a b => ⟨a.x + b.x, a.y + b.y⟩⟩

instance : Sub (Vec2 α) := ⟨fun a b => ⟨a.x - b.x, a.y - b.y⟩⟩

def scale (v : Vec2 α) (s : α) : Vec2 α := ⟨v.x * s, v.y * s⟩

def divide (v : Vec2 α) (s : α) : Vec2 α := ⟨v.x / s, v.y / s⟩

def dot (a b : Vec2 α) : α := a.x * b.x + a.y * b.y

def normSq (v : Vec2 α) : α := v.dot v

def norm (v : Vec2 α) : α := Scalar.sqrt v.normSq

def isFinite (v : Vec2 α) : Bool := Scalar.isFinite v.x && Scalar.isFinite v.y

def toList {α : Type} (v : Vec2 α) : List α := [v.x, v.y]

def of {α : Type} (f : Fin 2 → α) : Vec2 α := ⟨f 0, f 1⟩

end Vec2

namespace Vec3

variable {α : Type} [Scalar α]

def zero : Vec3 α := ⟨0, 0, 0⟩

instance : Add (Vec3 α) := ⟨fun a b => ⟨a.x + b.x, a.y + b.y, a.z + b.z⟩⟩

instance : Sub (Vec3 α) := ⟨fun a b => ⟨a.x - b.x, a.y - b.y, a.z - b.z⟩⟩

instance : Neg (Vec3 α) := ⟨fun a => ⟨-a.x, -a.y, -a.z⟩⟩

def scale (v : Vec3 α) (s : α) : Vec3 α := ⟨v.x * s, v.y * s, v.z * s⟩

def divide (v : Vec3 α) (s : α) : Vec3 α := ⟨v.x / s, v.y / s, v.z / s⟩

def dot (a b : Vec3 α) : α := a.x * b.x + a.y * b.y + a.z * b.z

def cross (a b : Vec3 α) : Vec3 α :=
  ⟨a.y * b.z - a.z * b.y, a.z * b.x - a.x * b.z, a.x * b.y - a.y * b.x⟩

def normSq (v : Vec3 α) : α := v.dot v

def norm (v : Vec3 α) : α := Scalar.sqrt v.normSq

def isFinite (v : Vec3 α) : Bool :=
  Scalar.isFinite v.x && Scalar.isFinite v.y && Scalar.isFinite v.z

/-- The point that divides the segment from `a` to `b` in the ratio of `t` to `1 - t`. At the end of
the segment `a` has no part, not even where it is not finite. -/
def lerp (a b : Vec3 α) (t : α) : Vec3 α :=
  if 1 - t == 0 then b.scale t else a.scale (1 - t) + b.scale t

def sum (vs : List (Vec3 α)) : Vec3 α := vs.foldl (· + ·) zero

def toList {α : Type} (v : Vec3 α) : List α := [v.x, v.y, v.z]

def get {α : Type} (v : Vec3 α) (i : Fin 3) : α :=
  match i with
  | 0 => v.x
  | 1 => v.y
  | 2 => v.z

def of {α : Type} (f : Fin 3 → α) : Vec3 α := ⟨f 0, f 1, f 2⟩

end Vec3

end LandmarkMap
