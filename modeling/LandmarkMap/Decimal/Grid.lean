set_option autoImplicit false

/-!
Decimals and finite binary numbers, and the rounding of one to a grid of the other. All arithmetic
is exact: a binary number is compared as the quotient of two naturals.
-/

namespace LandmarkMap

/-- The number `significand * 10 ^ exponent`. -/
structure Decimal where
  significand : Nat
  exponent : Int
deriving DecidableEq, Repr

/-- The number `mantissa * 2 ^ exponent`, with its sign. -/
structure Binary where
  negative : Bool
  mantissa : Nat
  exponent : Int
deriving DecidableEq, Repr

structure NatQuotient where
  num : Nat
  den : Nat

namespace Binary

def leadingBit : Nat := 0x10000000000000

def ofFloat? (x : Float) : Option Binary :=
  let bits : Nat := x.toBits.toNat
  let negative := decide (0x8000000000000000 ≤ bits)
  let biased : Nat := bits / leadingBit % 2048
  let fraction : Nat := bits % leadingBit
  if biased = 2047 then none
  else if biased = 0 then some ⟨negative, fraction, -1074⟩
  else some ⟨negative, fraction + leadingBit, (biased : Int) - 1075⟩

end Binary

namespace NatQuotient

def ofBinary (n : Nat) (e : Int) : NatQuotient :=
  if 0 ≤ e then ⟨n * Nat.pow 2 e.toNat, 1⟩ else ⟨n, Nat.pow 2 (-e).toNat⟩

def inUnits (q : NatQuotient) (e : Int) : NatQuotient :=
  if 0 ≤ e then ⟨q.num, q.den * Nat.pow 10 e.toNat⟩ else ⟨q.num * Nat.pow 10 (-e).toNat, q.den⟩

def compare (a b : NatQuotient) : Ordering := Ord.compare (a.num * b.den) (b.num * a.den)

def floor (q : NatQuotient) : Nat := q.num / q.den

/-- The nearest natural, of two equally near the even one. -/
def nearest (q : NatQuotient) : Nat :=
  let low := q.floor
  match Ord.compare (2 * (q.num % q.den)) q.den with
  | .lt => low
  | .gt => low + 1
  | .eq => if low % 2 = 0 then low else low + 1

/-- The nearest natural, of two equally near the upper one. -/
def nearestUp (q : NatQuotient) : Nat :=
  if 2 * (q.num % q.den) < q.den then q.floor else q.floor + 1

def leadingExponent (q : NatQuotient) : Int :=
  let guess : Int := (Nat.toDigits 10 q.num).length - (Nat.toDigits 10 q.den).length
  if (q.inUnits guess).floor = 0 then guess - 1 else guess

end NatQuotient

namespace Decimal

def quotient (d : Decimal) : NatQuotient :=
  if 0 ≤ d.exponent then ⟨d.significand * Nat.pow 10 d.exponent.toNat, 1⟩
  else ⟨d.significand, Nat.pow 10 (-d.exponent).toNat⟩

def round (q : NatQuotient) (e : Int) : Decimal := ⟨(q.inUnits e).nearest, e⟩

/-- The quotient rounded to a number of digits, or to fewer if that keeps it to a number of
decimals; rounding happens once. -/
def limited (digits : Nat) (decimals : Int) (q : NatQuotient) : Decimal :=
  let places := q.leadingExponent + 1 - digits
  let full := round q places
  let carried := if full.significand = Nat.pow 10 digits then places + 1 else places
  if decimals < -carried then round q (-decimals) else full

def stripZeros : Nat → Decimal → Decimal
  | 0, d => d
  | n + 1, d =>
      if d.significand ≠ 0 ∧ d.significand % 10 = 0 then
        stripZeros n ⟨d.significand / 10, d.exponent + 1⟩
      else d

end Decimal

end LandmarkMap
