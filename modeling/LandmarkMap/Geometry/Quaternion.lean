import LandmarkMap.Geometry.Mat

set_option autoImplicit false

/-!
Quaternions in the order `x, y, z, w` with Hamilton's product, the rotations of the unit ones, and
the Jacobians of the left update `exp(δ) q`.
-/

namespace LandmarkMap

structure Quaternion (α : Type) where
  x : α
  y : α
  z : α
  w : α
deriving Repr, DecidableEq

namespace Quaternion

variable {α : Type} [Scalar α]

def identity : Quaternion α := ⟨0, 0, 0, 1⟩

def imag {α : Type} (q : Quaternion α) : Vec3 α := ⟨q.x, q.y, q.z⟩

def ofParts {α : Type} (w : α) (v : Vec3 α) : Quaternion α := ⟨v.x, v.y, v.z, w⟩

def toList {α : Type} (q : Quaternion α) : List α := [q.x, q.y, q.z, q.w]

instance : Mul (Quaternion α) := ⟨fun a b =>
  { w := a.w * b.w - a.x * b.x - a.y * b.y - a.z * b.z
    x := a.w * b.x + a.x * b.w + a.y * b.z - a.z * b.y
    y := a.w * b.y - a.x * b.z + a.y * b.w + a.z * b.x
    z := a.w * b.z + a.x * b.y - a.y * b.x + a.z * b.w }⟩

instance : Neg (Quaternion α) := ⟨fun q => ⟨-q.x, -q.y, -q.z, -q.w⟩⟩

instance : Add (Quaternion α) := ⟨fun a b => ⟨a.x + b.x, a.y + b.y, a.z + b.z, a.w + b.w⟩⟩

def scale (q : Quaternion α) (s : α) : Quaternion α := ⟨q.x * s, q.y * s, q.z * s, q.w * s⟩

def conj (q : Quaternion α) : Quaternion α := ⟨-q.x, -q.y, -q.z, q.w⟩

def dot (a b : Quaternion α) : α := (a.x * b.x + a.z * b.z) + (a.y * b.y + a.w * b.w)

def norm (q : Quaternion α) : α := Scalar.sqrt (q.dot q)

def normalize (q : Quaternion α) : Quaternion α :=
  ⟨q.x / q.norm, q.y / q.norm, q.z / q.norm, q.w / q.norm⟩

def isFinite (q : Quaternion α) : Bool :=
  Scalar.isFinite q.x && Scalar.isFinite q.y && Scalar.isFinite q.z && Scalar.isFinite q.w

def rotate (q : Quaternion α) (v : Vec3 α) : Vec3 α :=
  let t := (q.imag.cross v).scale 2.0
  t.scale q.w + q.imag.cross t + v

def toMat (q : Quaternion α) : Mat 3 3 α :=
  let ww := q.w * q.w
  let xx := q.x * q.x
  let yy := q.y * q.y
  let zz := q.z * q.z
  let xy := q.x * q.y * 2.0
  let xz := q.x * q.z * 2.0
  let yz := q.y * q.z * 2.0
  let wx := q.w * q.x * 2.0
  let wy := q.w * q.y * 2.0
  let wz := q.w * q.z * 2.0
  ⟨#v[#v[ww + xx - yy - zz, xy - wz, wy + xz],
      #v[wz + xy, ww - xx + yy - zz, yz - wx],
      #v[xz - wy, wx + yz, ww - xx - yy + zz]]⟩

def exp (v : Vec3 α) : Quaternion α :=
  let half := v.divide 2.0
  if half.normSq ≤ Scalar.epsilon * Scalar.epsilon then identity
  else
    let n := Scalar.sqrt half.normSq
    ofParts (Scalar.cos n) (half.scale (Scalar.sin n / n))

def aboutX (angle : α) : Quaternion α :=
  ⟨Scalar.sin (angle / 2.0), 0, 0, Scalar.cos (angle / 2.0)⟩

/-- The product, or its negative if that has the positive scalar part, with the sign applied. -/
def positiveProduct (a b : Quaternion α) : Quaternion α × α :=
  let p := a * b
  if p.w < 0 then (-p, -1) else (p, 1)

/-- The derivative of `exp(δ) q` in `δ` at zero, rows in the order `x, y, z, w`. -/
def plusJacobian (q : Quaternion α) : Mat 4 3 α :=
  let top := Mat.identity.scale q.w - q.imag.skew
  let bottom : Mat 1 3 α := ⟨#v[#v[-q.x, -q.y, -q.z]]⟩
  (top.stack bottom).scale 0.5

def lift {r : Nat} (localJacobian : Mat r 3 α) (q : Quaternion α) : Mat r 4 α :=
  (localJacobian * q.plusJacobian.transpose).scale 4.0

/-- Spherical interpolation from `a` to the nearer of `b` and `-b`, and nothing where the sine between
the two is within the tolerance. -/
def slerp? (a b : Quaternion α) (t tolerance : α) : Option (Quaternion α) :=
  let target := if a.dot b < 0 then -b else b
  let c := a.dot target
  if 1 ≤ c then some a
  else
    let angle := Scalar.acos c
    let s := Scalar.sqrt (1 - c * c)
    if Scalar.abs s ≤ tolerance then none
    else
      let fromStart := Scalar.sin ((1 - t) * angle) / s
      let fromEnd := Scalar.sin (t * angle) / s
      some (a.scale fromStart + target.scale fromEnd)

end Quaternion

end LandmarkMap
