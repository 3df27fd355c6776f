import LandmarkMap.Geometry.Mat
import LandmarkMap.Failure

set_option autoImplicit false

/-!
Lens distortion on the normalized image plane, with its derivatives in the point and in the
distortion parameters.
-/

namespace LandmarkMap

inductive DistortionKind where
  | ideal
  /-- Parameters `k1, k2, p1, p2`. -/
  | radialTangential
  | fieldOfView
deriving DecidableEq, Repr

/-- How many parameters a kind has; no two kinds have the same number. -/
def DistortionKind.count : DistortionKind → Nat
  | .ideal => 0
  | .radialTangential => 4
  | .fieldOfView => 1

structure Distortion (α : Type) where
  kind : DistortionKind
  parameters : Vector α kind.count

namespace Distortion

variable {α : Type}

def ideal : Distortion α := ⟨.ideal, #v[]⟩

def radialTangential (k1 k2 p1 p2 : α) : Distortion α := ⟨.radialTangential, #v[k1, k2, p1, p2]⟩

def fieldOfView (w : α) : Distortion α := ⟨.fieldOfView, #v[w]⟩

def ofParameters? : List α → Option (Distortion α)
  | [] => some ideal
  | [w] => some (fieldOfView w)
  | [k1, k2, p1, p2] => some (radialTangential k1 k2 p1 p2)
  | _ => none

end Distortion

namespace RadialTangential

variable {α : Type} [Scalar α]

def distort (ps : Vector α 4) (m : Vec2 α) : Vec2 α :=
  let k1 := ps[0]
  let k2 := ps[1]
  let p1 := ps[2]
  let p2 := ps[3]
  let r2 := m.x * m.x + m.y * m.y
  let radial := 1 + k1 * r2 + k2 * r2 * r2
  ⟨m.x * radial + 2.0 * p1 * m.x * m.y + p2 * (r2 + 2.0 * m.x * m.x),
   m.y * radial + 2.0 * p2 * m.x * m.y + p1 * (r2 + 2.0 * m.y * m.y)⟩

def pointJacobian (ps : Vector α 4) (m : Vec2 α) : Mat 2 2 α :=
  let k1 := ps[0]
  let k2 := ps[1]
  let p1 := ps[2]
  let p2 := ps[3]
  let x := m.x
  let y := m.y
  let r2 := x * x + y * y
  let radial := 1 + k1 * r2 + k2 * r2 * r2
  let slope := k1 + 2.0 * k2 * r2
  ⟨#v[#v[radial + 2.0 * x * x * slope + 2.0 * p1 * y + 6.0 * p2 * x,
         2.0 * x * y * slope + 2.0 * p1 * x + 2.0 * p2 * y],
      #v[2.0 * x * y * slope + 2.0 * p2 * y + 2.0 * p1 * x,
         radial + 2.0 * y * y * slope + 2.0 * p2 * x + 6.0 * p1 * y]]⟩

def parameterJacobian (m : Vec2 α) : Mat 2 4 α :=
  let x := m.x
  let y := m.y
  let r2 := x * x + y * y
  ⟨#v[#v[x * r2, x * r2 * r2, 2.0 * x * y, r2 + 2.0 * x * x],
      #v[y * r2, y * r2 * r2, r2 + 2.0 * y * y, 2.0 * x * y]]⟩

end RadialTangential

structure Distorted (k : Nat) (α : Type) where
  moved : Vec2 α
  point : Option (Mat 2 2 α)
  parameters : Option (Mat 2 k α)

namespace FieldOfView

variable {α : Type} [Scalar α]

def small : α := 1e-8

def angle {α : Type} (ps : Vector α 1) : α := ps[0]

structure Factor (α : Type) where
  value : α
  byRadius : α
  byAngle : α

/-- The factor `atan (2 r tan (w / 2)) / (w r)` at radius `r`. -/
def factor (w r : α) : Factor α :=
  let t := Scalar.tan (w / 2.0)
  let secSq := 1 + t * t
  if r < small then
    ⟨2.0 * t / w, 0, (secSq * w - 2.0 * t) / (w * w)⟩
  else
    let a := 2.0 * r * t
    let arc := Scalar.atan a
    let rd := arc / w
    let byRadius := 2.0 * t / ((1 + a * a) * w)
    let byAngle := (r * secSq / (1 + a * a) * w - arc) / (w * w)
    ⟨rd / r, (byRadius * r - rd) / (r * r), byAngle / r⟩

def distort (w : α) (m : Vec2 α) : Vec2 α :=
  if Scalar.abs w < small then m else m.scale (factor w m.norm).value

def pointJacobian (w : α) (m : Vec2 α) : Mat 2 2 α :=
  if Scalar.abs w < small then Mat.identity
  else
    let r := m.norm
    let f := factor w r
    let along := Mat.identity.scale f.value
    if r < small then along
    else
      let slope := f.byRadius / r
      along + ⟨#v[#v[m.x * m.x * slope, m.x * m.y * slope],
                  #v[m.y * m.x * slope, m.y * m.y * slope]]⟩

def parameterJacobian (w : α) (m : Vec2 α) : Mat 2 1 α :=
  if Scalar.abs w < small then Mat.zero
  else
    let f := factor w m.norm
    ⟨#v[#v[m.x * f.byAngle], #v[m.y * f.byAngle]]⟩

def distortInto (w : α) (m : Vec2 α) (point : Option (Mat 2 2 α)) (parameters : Option (Mat 2 1 α)) :
    Distorted 1 α :=
  if Scalar.abs w < small then
    ⟨m, point.map fun _ => Mat.identity, parameters.map fun _ => Mat.zero⟩
  else
    let r := m.norm
    let f := factor w r
    let along := Mat.identity.scale f.value
    let slope := f.byRadius / r
    let across := ⟨#v[#v[m.x * m.x * slope, m.x * m.y * slope],
                      #v[m.y * m.x * slope, m.y * m.y * slope]]⟩
    ⟨m.scale f.value, point.map fun _ => if r < small then along else along + across,
     parameters.map fun _ => ⟨#v[#v[m.x * f.byAngle], #v[m.y * f.byAngle]]⟩⟩

end FieldOfView

namespace Distortion

variable {α : Type} [Scalar α]

def distort : Distortion α → Vec2 α → Vec2 α
  | ⟨.ideal, _⟩, m => m
  | ⟨.radialTangential, ps⟩, m => RadialTangential.distort ps m
  | ⟨.fieldOfView, ps⟩, m => FieldOfView.distort (FieldOfView.angle ps) m

def pointJacobian : Distortion α → Vec2 α → Mat 2 2 α
  | ⟨.ideal, _⟩, _ => Mat.identity
  | ⟨.radialTangential, ps⟩, m => RadialTangential.pointJacobian ps m
  | ⟨.fieldOfView, ps⟩, m => FieldOfView.pointJacobian (FieldOfView.angle ps) m

def parameterJacobian : (d : Distortion α) → Vec2 α → Mat 2 d.kind.count α
  | ⟨.ideal, _⟩, _ => Mat.zero
  | ⟨.radialTangential, _⟩, m => RadialTangential.parameterJacobian m
  | ⟨.fieldOfView, ps⟩, m => FieldOfView.parameterJacobian (FieldOfView.angle ps) m

def distortInto : (d : Distortion α) → Vec2 α → Option (Mat 2 2 α) → Option (Mat 2 d.kind.count α) →
    Distorted d.kind.count α
  | ⟨.ideal, _⟩, m, point, parameters =>
      ⟨m, point.map fun _ => Mat.identity, parameters.map fun _ => Mat.zero⟩
  | ⟨.radialTangential, ps⟩, m, point, parameters =>
      ⟨RadialTangential.distort ps m, point.map fun _ => RadialTangential.pointJacobian ps m,
       parameters.map fun _ => RadialTangential.parameterJacobian m⟩
  | ⟨.fieldOfView, ps⟩, m, point, parameters =>
      FieldOfView.distortInto (FieldOfView.angle ps) m point parameters

def withParameters {α : Type} (d : Distortion α) (parameters : List α) :
    Except (Fault α) (Vector α d.kind.count) :=
  if h : parameters.toArray.size = d.kind.count then .ok ⟨parameters.toArray, h⟩
  else .error .distortionParameterCount

def distortWith (d : Distortion α) (parameters : List α) (m : Vec2 α) (point : Option (Mat 2 2 α))
    (byParameters : Option (Mat 2 d.kind.count α)) :
    Except (Fault α) (Distorted d.kind.count α) := do
  let ps ← d.withParameters parameters
  return distortInto ⟨d.kind, ps⟩ m point byParameters

end Distortion

end LandmarkMap
