set_option autoImplicit false

/-!
Scalars: the arithmetic that every geometric definition of the library is written in. A definition
over `Scalar α` runs on `Float` and means what its formula says over any other field of numbers.
-/

namespace LandmarkMap

/-- The operations on scalars that the library uses; no law is asked of them. -/
class Scalar (α : Type) extends Zero α, One α, Add α, Sub α, Mul α, Div α, Neg α, LT α, LE α,
    BEq α, OfScientific α where
  decLt : DecidableLT α
  decLe : DecidableLE α
  ofNat : Nat → α
  ofInt : Int → α
  /-- Rounds toward zero; what lies outside the 64-bit range goes to its nearer end. -/
  toInt64 : α → Int64
  sqrt : α → α
  sin : α → α
  cos : α → α
  tan : α → α
  atan : α → α
  acos : α → α
  atan2 : (y x : α) → α
  abs : α → α
  /-- The larger of two scalars; an operand that is not a number is ignored. -/
  max : α → α → α
  isFinite : α → Bool
  totalLe : α → α → Bool
  pi : α
  /-- Distance from one to the next larger scalar, zero where scalars are dense. -/
  epsilon : α

instance Scalar.decidableLT {α : Type} [Scalar α] : DecidableLT α := Scalar.decLt

instance Scalar.decidableLE {α : Type} [Scalar α] : DecidableLE α := Scalar.decLe

def Scalar.orderKey (bits : UInt64) : Int :=
  if bits < 0x8000000000000000 then bits.toNat else -((bits - 0x8000000000000000).toNat : Int) - 1

instance : Scalar Float where
  zero := 0.0
  one := 1.0
  decLt := inferInstance
  decLe := inferInstance
  ofNat := Float.ofNat
  ofInt := Float.ofInt
  toInt64 := Float.toInt64
  sqrt := Float.sqrt
  sin := Float.sin
  cos := Float.cos
  tan := Float.tan
  atan := Float.atan
  acos := Float.acos
  atan2 := Float.atan2
  abs := Float.abs
  max a b := if a.isNaN then b else if b.isNaN then a else if a < b then b else a
  isFinite := Float.isFinite
  totalLe a b := Scalar.orderKey a.toBits ≤ Scalar.orderKey b.toBits
  pi := 3.141592653589793
  epsilon := 2.220446049250313e-16

namespace Scalar

variable {α : Type} [Scalar α]

def radians (degrees : α) : α := degrees * (pi / 180.0)

def square (x : α) : α := x * x

end Scalar

def sumFin {α : Type} [Scalar α] (n : Nat) (f : Fin n → α) : α :=
  Fin.foldl n (fun total i => total + f i) 0

end LandmarkMap
