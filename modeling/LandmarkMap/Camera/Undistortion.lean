import LandmarkMap.Camera.Distortion

set_option autoImplicit false

/-!
Undistortion by Newton's method. The linear solver of a step is a parameter: whatever it returns, a
point that is found distorts to within the tolerance of the target.
-/

namespace LandmarkMap

/-- The solution of two linear equations by elimination with the larger pivot; none if a pivot is
zero. -/
def Mat.solve2? {α : Type} [Scalar α] (a : Mat 2 2 α) (b : Vec2 α) : Option (Vec2 α) :=
  let rows := Vec2.of a.planeRow
  let swapped := Scalar.abs rows.x.x < Scalar.abs rows.y.x
  let (upper, lower) := if swapped then (rows.y, rows.x) else (rows.x, rows.y)
  let (b0, b1) := if swapped then (b.y, b.x) else (b.x, b.y)
  if upper.x == 0 then none
  else
    let factor := lower.x * (1 / upper.x)
    let pivot := lower.y - factor * upper.y
    if pivot == 0 then none
    else
      let y := (b1 - factor * b0) / pivot
      some ⟨(b0 - upper.y * y) / upper.x, y⟩

namespace Distortion

variable {α : Type} [Scalar α]

def stepTolerance : α := 1e-12

def finalTolerance : α := 1e-9

def refine? (solve : Mat 2 2 α → Vec2 α → Option (Vec2 α)) (d : Distortion α) (target : Vec2 α) :
    Nat → Vec2 α → Option (Vec2 α)
  | 0, m => if (d.distort m - target).norm < finalTolerance then some m else none
  | n + 1, m =>
      let error := d.distort m - target
      if error.normSq < stepTolerance * stepTolerance then some m
      else
        match solve (d.pointJacobian m) error with
        | none => none
        | some step =>
            let next := m - step
            if next.isFinite then refine? solve d target n next else none

def undistortWith? (solve : Mat 2 2 α → Vec2 α → Option (Vec2 α)) (d : Distortion α)
    (target : Vec2 α) : Option (Vec2 α) :=
  match d.kind with
  | .ideal => some target
  | _ => refine? solve d target 20 target

def undistort? (d : Distortion α) (target : Vec2 α) : Option (Vec2 α) :=
  d.undistortWith? Mat.solve2? target

end Distortion

end LandmarkMap
