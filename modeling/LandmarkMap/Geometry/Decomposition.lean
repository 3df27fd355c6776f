import LandmarkMap.Geometry.Tridiagonal
import LandmarkMap.Geometry.Spectral

set_option autoImplicit false

/-!
Decompositions of 3 × 3 matrices in floating-point numbers. Singular values are those of the
triangular factor of `a v`, where the columns of `v` are eigenvectors of `aᵀ a` in descending order.
-/

namespace LandmarkMap

namespace Decomposition

variable {α : Type} [Scalar α]

def ofColumns (columns : List (List α)) : Mat 3 3 α :=
  Mat.of fun i j => (columns.getD j []).getD i 0

def columnsOf (a : Mat 3 3 α) : List (List α) := a.transpose.rows.toList.map (·.toList)

/-- The eigenvalues and eigenvectors of a symmetric matrix, in no particular order. -/
def eigen (tolerance : α) (a : Mat 3 3 α) : Eigen α :=
  let size := a.amax Scalar.max
  let scaled := if size == 0 then a else a.divide size
  let t := (Tridiagonal.ofSymmetric scaled).diagonalize tolerance
  ⟨Vec3.of fun i => t.entry i * size, ofColumns t.basis⟩

structure Paired (α : Type) where
  image : List α
  source : List α

def Paired.square (p : Paired α) : α := Reflection.dot p.image p.image

def Paired.negate (p : Paired α) : Paired α := ⟨p.image.map (- ·), p.source.map (- ·)⟩

def Paired.order (p q : Paired α) : Paired α × Paired α :=
  if p.square < q.square then (q, p.negate) else (p, q)

def svd (tolerance : α) (a : Mat 3 3 α) : Svd α :=
  let v := (eigen tolerance (a.transpose * a)).vectors
  let paired (j : Fin 3) : Paired α :=
    ⟨(columnsOf (a * v)).getD j [], (columnsOf v).getD j []⟩
  let ⟨first, second, third⟩ := Vec3.of paired
  let (p, q) := first.order second
  let (p, r) := p.order third
  let (q, r) := q.order r
  let reflections := Reflection.triangularize 3 0 [p.image, q.image, r.image]
  { left := ofColumns (Reflection.product 3 reflections)
    values := Vec3.of fun i => (reflections.map fun m => Scalar.abs m.2.image).getD i 0
    right := ofColumns [p.source, q.source, r.source] }

end Decomposition

instance : Spectral Float :=
  ⟨Decomposition.eigen Scalar.epsilon, Decomposition.svd (Scalar.epsilon * 5.0)⟩

end LandmarkMap
