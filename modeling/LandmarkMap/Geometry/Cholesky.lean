import LandmarkMap.Geometry.Mat

set_option autoImplicit false

/-! The Cholesky factor of a matrix, computed from its lower triangle, and the inverse by it. -/

namespace LandmarkMap.Mat

variable {α : Type} [Scalar α] {n : Nat}

def reduceColumn (a : Mat n n α) (j : Fin n) : Mat n n α :=
  of fun i c =>
    if c = j ∧ j ≤ i then
      Fin.foldl n (fun x k => if k < j then x + -(a j k) * a i k else x) (a i j)
    else a i c

def scaleColumn? (a : Mat n n α) (j : Fin n) : Option (Mat n n α) :=
  if 0 < a j j then
    let root := Scalar.sqrt (a j j)
    some (of fun i c =>
      if c = j ∧ j < i then a i c / root else if c = j ∧ i = j then root else a i c)
  else none

/-- The lower triangular factor `l` with `a = l lᵀ`; none if a pivot is not positive. -/
def cholesky? (a : Mat n n α) : Option (Mat n n α) :=
  let step (state : Option (Mat n n α)) (j : Fin n) : Option (Mat n n α) :=
    state.bind fun a => (a.reduceColumn j).scaleColumn? j
  (Fin.foldl n step (some a)).map fun a => of fun i j => if j ≤ i then a i j else 0

def solveLower (l : Mat n n α) (b : Vector α n) : Vector α n :=
  Fin.foldl n (fun x i =>
    let left := Fin.foldl n (fun s k => if k < i then s - l i k * x.get k else s) (b.get i)
    x.set i (left / l i i) i.isLt) b

def solveLowerTranspose (l : Mat n n α) (b : Vector α n) : Vector α n :=
  Fin.foldr n (fun i x =>
    let known := Fin.foldl n (fun s k => if i < k then s + l k i * x.get k else s) 0
    x.set i ((b.get i - known) / l i i) i.isLt) b

def inverseFromCholesky (l : Mat n n α) : Mat n n α :=
  let columns : Vector (Vector α n) n := Vector.ofFn fun j =>
    l.solveLowerTranspose (l.solveLower (Vector.ofFn fun i => if i = j then 1 else 0))
  of fun i j => (columns.get j).get i

end LandmarkMap.Mat
