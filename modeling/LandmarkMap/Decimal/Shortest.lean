import LandmarkMap.Decimal.Grid

set_option autoImplicit false

/-!
The fewest decimal digits that read back to a given binary number. Reading rounds to nearest, ties
to the even mantissa, so the decimals that read back to a number fill an interval around it.
-/

namespace LandmarkMap

namespace Binary

def lowerEnd (b : Binary) : NatQuotient :=
  if b.mantissa = leadingBit ∧ -1074 < b.exponent then
    .ofBinary (4 * b.mantissa - 1) (b.exponent - 2)
  else .ofBinary (4 * b.mantissa - 2) (b.exponent - 2)

def upperEnd (b : Binary) : NatQuotient := .ofBinary (4 * b.mantissa + 2) (b.exponent - 2)

/-- Whether a decimal reads back to `b`; the ends of the interval do if the mantissa is even. -/
def readsBack (b : Binary) (d : Decimal) : Bool :=
  let closed := b.mantissa % 2 = 0
  let above := match b.lowerEnd.compare d.quotient with
    | .lt => true
    | .eq => closed
    | .gt => false
  let below := match d.quotient.compare b.upperEnd with
    | .lt => true
    | .eq => closed
    | .gt => false
  above && below

/-- Of the two neighbours of `b` on the grid of `10 ^ e`, one that reads back, the nearer first and
the upper first if both are equally near. -/
def onGrid? (b : Binary) (e : Int) : Option Decimal :=
  let value := (NatQuotient.ofBinary b.mantissa b.exponent).inUnits e
  let near := value.nearestUp
  let other := if near = value.floor then near + 1 else near - 1
  if b.readsBack ⟨near, e⟩ then some ⟨near, e⟩
  else if b.readsBack ⟨other, e⟩ then some ⟨other, e⟩
  else none

def firstOnGrid? (b : Binary) : Nat → Int → Option Decimal
  | 0, _ => none
  | n + 1, e =>
      match b.onGrid? e with
      | some d => some d
      | none => firstOnGrid? b n (e - 1)

/-- The shortest decimal that reads back to the magnitude of `b`; seventeen digits always do. -/
def shortest (b : Binary) : Decimal :=
  if b.mantissa = 0 then ⟨0, 0⟩
  else
    let value := NatQuotient.ofBinary b.mantissa b.exponent
    let d := (b.firstOnGrid? 17 value.leadingExponent).getD
      (.round value (value.leadingExponent - 16))
    d.stripZeros 20

end Binary

def Decimal.digits (d : Decimal) : List Char := Nat.toDigits 10 d.significand

def Decimal.pointAfter (d : Decimal) : Int := d.digits.length + d.exponent

def Decimal.positional (d : Decimal) : List Char :=
  let digits := d.digits
  let point := d.pointAfter
  if point ≤ 0 then '0' :: '.' :: (List.replicate (-point).toNat '0' ++ digits)
  else if digits.length ≤ point.toNat then
    digits ++ List.replicate (point.toNat - digits.length) '0'
  else digits.take point.toNat ++ '.' :: digits.drop point.toNat

def scalarText (x : Float) : String :=
  match Binary.ofFloat? x with
  | some b => String.ofList ((if b.negative then ['-'] else []) ++ b.shortest.positional)
  | none => if x.isNaN then "NaN" else if x < 0.0 then "-inf" else "inf"

end LandmarkMap
