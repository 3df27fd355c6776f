import LandmarkMap.Scalar

set_option autoImplicit false

/-!
Reflections that clear all but the first component of a column, and the orthogonal factor of a list
of columns that they lead to.
-/

namespace LandmarkMap

structure Reflection (α : Type) where
  normal : List α
  image : α

namespace Reflection

variable {α : Type} [Scalar α]

def dot (a b : List α) : α := (a.zipWith (· * ·) b).foldl (· + ·) 0

def negative (x : α) : Bool := decide (x < 0)

/-- The reflection of a column. Of the two that exist the one is taken whose normal does not suffer
cancellation. -/
def ofColumn : List α → Reflection α
  | [] => ⟨[], 0⟩
  | first :: rest =>
      let square := dot (first :: rest) (first :: rest)
      let length := Scalar.sqrt square
      let signed := if negative first then -length else length
      let scale := (square + Scalar.abs first * length) * 2.0
      if scale == 0 then ⟨(first + signed) :: rest, signed⟩
      else
        let root := Scalar.sqrt scale
        let normal := ((first + signed) :: rest).map (· / root)
        let norm := Scalar.sqrt (dot normal normal)
        ⟨normal.map (· / norm), -signed⟩

def apply (r : Reflection α) (column : List α) : List α :=
  let sign : α := if negative r.image then -1 else 1
  let factor := dot r.normal column * (sign * -2.0)
  r.normal.zipWith (fun a y => factor * a + sign * y) column

def applyBelow (r : Reflection α) (n : Nat) (column : List α) : List α :=
  column.take n ++ r.apply (column.drop n)

/-- The reflections that make a matrix upper triangular, column after column, each with the number
of components above it. -/
def triangularize : (rank row : Nat) → List (List α) → List (Nat × Reflection α)
  | 0, _, _ => []
  | _ + 1, _, [] => []
  | rank + 1, row, column :: rest =>
      let r := ofColumn (column.drop row)
      (row, r) :: triangularize rank (row + 1) (rest.map (r.applyBelow row))

def axes (n : Nat) : List (List α) :=
  (List.range n).map fun j => (List.range n).map fun i => if i = j then 1 else 0

def product (n : Nat) (reflections : List (Nat × Reflection α)) : List (List α) :=
  reflections.foldr (fun (row, r) columns => columns.map (r.applyBelow row)) (axes n)

end Reflection

end LandmarkMap
