import LandmarkMap.Geometry.Reflection
import LandmarkMap.Geometry.Mat

set_option autoImplicit false

/-!
Symmetric matrices in tridiagonal form, and the iteration that makes them diagonal: plane rotations
chase a shifted step down the diagonal until an entry beside it is negligible.
-/

namespace LandmarkMap

structure Tridiagonal (α : Type) where
  diagonal : List α
  beside : List α
  basis : List (List α)

structure PlaneRotation (α : Type) where
  cosine : α
  sine : α

namespace PlaneRotation

variable {α : Type} [Scalar α]

def toward? (x y tolerance : α) : Option (PlaneRotation α) :=
  let length := Scalar.sqrt (Scalar.abs x * Scalar.abs x + y * y)
  if tolerance < length then
    some ⟨Scalar.abs x / length, y / (if Reflection.negative x then -length else length)⟩
  else none

def columns (r : PlaneRotation α) (i : Nat) (basis : List (List α)) : List (List α) :=
  let a := basis.getD i []
  let b := basis.getD (i + 1) []
  (basis.set i (a.zipWith (fun x y => x * r.cosine + r.sine * y) b)).set (i + 1)
    (a.zipWith (fun x y => -r.sine * x + y * r.cosine) b)

end PlaneRotation

namespace Tridiagonal

variable {α : Type} [Scalar α]

/-- The tridiagonal form of a symmetric matrix, of which the lower triangle is read. -/
def ofSymmetric (a : Mat 3 3 α) : Tridiagonal α :=
  let rows := Vec3.of a.spaceRow
  let outer := Reflection.ofColumn [rows.y.x, rows.z.x]
  let u := outer.normal.getD 0 0
  let v := outer.normal.getD 1 0
  let p := 2.0 * u * rows.y.y + 2.0 * (rows.z.y * v)
  let q := 2.0 * u * rows.z.y + 2.0 * (rows.z.z * v)
  let twice := (u * p + v * q) * 2.0
  let b11 := twice * u * u + (-p * u + (-u * p + rows.y.y))
  let b21 := twice * u * v + (-p * v + (-u * q + rows.z.y))
  let b22 := twice * v * v + (-q * v + (-v * q + rows.z.z))
  let inner := Reflection.ofColumn [b21]
  let w := inner.normal.getD 0 0
  let r := 2.0 * w * b22
  let c22 := w * r * 2.0 * w * w + (-r * w + (-w * r + b22))
  { diagonal := [rows.x.x, b11, c22]
    beside := [Scalar.abs outer.image, Scalar.abs inner.image]
    basis := Reflection.product 3 [(1, outer), (2, inner)] }

def entry (t : Tridiagonal α) (i : Nat) : α := t.diagonal.getD i 0

def besideAt (t : Tridiagonal α) (i : Nat) : α := t.beside.getD i 0

def threshold (t : Tridiagonal α) (tolerance : α) (i : Nat) : α :=
  tolerance * (Scalar.abs (t.entry (i + 1)) + Scalar.abs (t.entry i))

def lastCoupled (t : Tridiagonal α) (tolerance : α) : Nat → Nat
  | 0 => 0
  | n + 1 =>
      if t.threshold tolerance n < Scalar.abs (t.besideAt n) then n + 1
      else lastCoupled t tolerance n

def cutAbove (t : Tridiagonal α) (tolerance : α) : Nat → Nat × Tridiagonal α
  | 0 => (0, t)
  | n + 1 =>
      if Scalar.abs (t.besideAt n) ≤ t.threshold tolerance n then
        (n + 1, { t with beside := t.beside.set n 0 })
      else cutAbove t tolerance n

/-- Of the eigenvalues of the last two rows the one that is nearer to the last entry. -/
def shift (above last beside : α) : α :=
  let square := beside * beside
  if square == 0 then last
  else
    let half := (above - last) * 0.5
    let root := Scalar.sqrt (half * half + square)
    last - square / (half + (if Reflection.negative half then -1 else 1) * root)

/-- The rotations of rows `i`, `i + 1` and on, `n` of them, each of which moves the entry outside
the three diagonals one row down, from the point `x, y` that the first is to turn onto an axis. -/
def chase (first : Nat) : (n i : Nat) → (x y : α) → Tridiagonal α → Tridiagonal α
  | 0, _, _, _, t => t
  | n + 1, i, x, y, t =>
      if y == 0 then t
      else
        let length := Scalar.sqrt (Scalar.abs x * Scalar.abs x + y * y)
        let signed := if Reflection.negative x then -length else length
        let c := Scalar.abs x / length
        let s := -y / signed
        let upper := t.entry i
        let lower := t.entry (i + 1)
        let off := t.besideAt i
        let b := c * s * 2.0 * off
        let newOff := c * s * (upper - lower) + off * (c * c - s * s)
        let beside := (if first < i then t.beside.set (i - 1) signed else t.beside).set i newOff
        let next := t.besideAt (i + 1)
        let turned : Tridiagonal α :=
          { diagonal := (t.diagonal.set i (c * c * upper + s * s * lower - b)).set (i + 1)
              (s * s * upper + c * c * lower + b)
            beside := if n = 0 then beside else beside.set (i + 1) (next * c)
            basis := PlaneRotation.columns ⟨c, -s⟩ i t.basis }
        chase first n (i + 1) newOff (-s * next) turned

def solvePair (t : Tridiagonal α) (tolerance : α) (i : Nat) : Tridiagonal α :=
  let upper := t.entry i
  let lower := t.entry (i + 1)
  let off := t.besideAt i
  let half := (upper - lower) * 0.5
  let root := Scalar.sqrt (off * off + half * half)
  let mean := (upper + lower) * 0.5
  { t with
    diagonal := (t.diagonal.set i (mean + root)).set (i + 1) (mean - root)
    basis := match PlaneRotation.toward? (mean + root - lower) off tolerance with
      | some r => r.columns i t.basis
      | none => t.basis }

def iterate (tolerance : α) : (n last : Nat) → Tridiagonal α → Tridiagonal α
  | 0, _, t => t
  | n + 1, last, t =>
      let last := t.lastCoupled tolerance last
      if last = 0 then t
      else
        let (first, t) := t.cutAbove tolerance (last - 1)
        if last = first + 1 then iterate tolerance n (last - 1) (t.solvePair tolerance first)
        else
          let x := t.entry first - shift (t.entry (last - 1)) (t.entry last) (t.besideAt (last - 1))
          let t := chase first (last - first) first x (t.besideAt first) t
          let done := Scalar.abs (t.besideAt (last - 1)) ≤ t.threshold tolerance (last - 1)
          iterate tolerance n (if done then last - 1 else last) t

/-- Convergence is cubic, so that a few rounds for each row are enough. -/
def diagonalize (t : Tridiagonal α) (tolerance : α) : Tridiagonal α :=
  iterate tolerance 1000 (t.diagonal.length - 1) t

end Tridiagonal

end LandmarkMap
