import LandmarkMap.Geometry.Mat

set_option autoImplicit false

/-!
Decompositions of 3 × 3 matrices. What uses them takes them from the class `Spectral`, so that it
can be read over any scalars, with any way to compute them.
-/

namespace LandmarkMap

/-- Eigenvalues and, in the columns of the matrix, their eigenvectors. -/
structure Eigen (α : Type) where
  values : Vec3 α
  vectors : Mat 3 3 α

/-- The product `left * diag values * rightᵀ`. -/
structure Svd (α : Type) where
  left : Mat 3 3 α
  values : Vec3 α
  right : Mat 3 3 α

class Spectral (α : Type) where
  eigen : Mat 3 3 α → Eigen α
  svd : Mat 3 3 α → Svd α

def Eigen.ascending {α : Type} [Scalar α] (e : Eigen α) : Eigen α :=
  let order := (List.finRange 3).mergeSort fun i j =>
    Scalar.totalLe (e.values.get i) (e.values.get j)
  let nth (k : Fin 3) : Fin 3 := order.getD k.val k
  { values := Vec3.of fun k => e.values.get (nth k)
    vectors := Mat.of fun i k => e.vectors i (nth k) }

/-- Of a vector and its negative, the one whose first component larger than a bound is positive. -/
def Vec3.oriented {α : Type} [Scalar α] (v : Vec3 α) (bound : α) : Vec3 α :=
  match v.toList.find? fun c => decide (bound < Scalar.abs c) with
  | some c => if c < 0 then -v else v
  | none => v

/-- An eigenvector, if it is determined: every other eigenvalue must lie farther from its own than
a share of the largest of them. None is far from an eigenvalue that is not a number. -/
def Eigen.axis? {α : Type} [Scalar α] (e : Eigen α) (tolerance : α) (i : Fin 3) : Option (Vec3 α) :=
  let largest := e.values.toList.foldl (fun top v => Scalar.max top (Scalar.abs v)) 0
  let isolated := (List.finRange 3).all fun k =>
    k == i || decide (tolerance * largest < Scalar.abs (e.values.get k - e.values.get i))
  if isolated then some (Vec3.of fun k => e.vectors k i) else none

namespace Svd

variable {α : Type} [Scalar α]

def largest (d : Svd α) : α := Scalar.max (Scalar.max d.values.x d.values.y) d.values.z

def rank (d : Svd α) (threshold : α) : Nat := d.values.toList.countP fun v => decide (threshold < v)

/-- The least-squares solution, singular values up to the threshold left out. -/
def solve (d : Svd α) (rhs : Vec3 α) (threshold : α) : Vec3 α :=
  let projected := d.left.transpose.act rhs
  let scaled := Vec3.of fun i =>
    if threshold < d.values.get i then projected.get i / d.values.get i else 0
  d.right.act scaled

end Svd

end LandmarkMap
