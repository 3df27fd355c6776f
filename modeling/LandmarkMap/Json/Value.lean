import LandmarkMap.Decimal.Shortest

set_option autoImplicit false

/-!
JSON documents. Numbers keep their exact value and how they were written; members of an object keep
their order, repeated names included.
-/

namespace LandmarkMap

/-- What has a fraction or an exponent is a decimal; its places are the digits after the point. -/
inductive Numeral where
  | integer (negative : Bool) (magnitude : Nat)
  | decimal (negative : Bool) (value : Decimal) (places : Nat)
deriving DecidableEq, Repr

/-- How numerals are rounded to doubles; those beyond the range of the reader are refused. -/
abbrev NumberReader := Numeral → Option Float

/-- A text is `none` if an escape in it names half of a surrogate pair, which no string can hold. -/
inductive Json where
  | null
  | bool (value : Bool)
  | number (value : Numeral)
  | text (value : Option String)
  | array (items : List Json)
  | object (members : List (Option String × Json))
deriving Inhabited

namespace Numeral

def toFloat (n : Numeral) : Float :=
  let magnitude (d : Decimal) : Float :=
    if d.significand = 0 then 0.0
    else if 400 < d.pointAfter then 1.0 / 0.0
    else if d.pointAfter < -400 then 0.0
    else if 0 ≤ d.exponent then Float.ofScientific d.significand false d.exponent.toNat
    else Float.ofScientific d.significand true (-d.exponent).toNat
  match n with
  | integer negative m => if negative then -magnitude ⟨m, 0⟩ else magnitude ⟨m, 0⟩
  | decimal negative d _ => if negative then -magnitude d else magnitude d

def nearest? : NumberReader := fun n =>
  if n.toFloat.isFinite then some n.toFloat else none

def natural? (bound : Nat) : Numeral → Option Nat
  | integer false m => if m < bound then some m else none
  | _ => none

def ofFloat? (x : Float) : Option Numeral :=
  (Binary.ofFloat? x).map fun b => decimal b.negative b.shortest 0

/-- A finite number to so many digits and at most so many decimals; what rounds to zero has no sign.
-/
def limited? (digits : Nat) (decimals : Int) (x : Float) : Option Numeral :=
  (Binary.ofFloat? x).map fun b =>
    let d : Decimal :=
      if b.mantissa = 0 then ⟨0, 0⟩
      else Decimal.limited digits decimals (.ofBinary b.mantissa b.exponent)
    if d.significand = 0 then decimal false ⟨0, 0⟩ 0 else decimal b.negative (d.stripZeros digits) 0

end Numeral

namespace Json

def ofFloat (x : Float) : Json :=
  match Numeral.ofFloat? x with
  | some n => number n
  | none => null

def ofNat (n : Nat) : Json := number (.integer false n)

mutual
/-- Whether every text can be held, every number is in range and the nesting stays below a limit. -/
def isHeld (reader : NumberReader) : Nat → Json → Bool
  | _, null => true
  | _, bool _ => true
  | _, number n => (reader n).isSome
  | _, text t => t.isSome
  | limit, array items => decide (0 < limit) && areHeld reader (limit - 1) items
  | limit, object members => decide (0 < limit) && membersHeld reader (limit - 1) members

def areHeld (reader : NumberReader) : Nat → List Json → Bool
  | _, [] => true
  | limit, item :: rest => isHeld reader limit item && areHeld reader limit rest

def membersHeld (reader : NumberReader) : Nat → List (Option String × Json) → Bool
  | _, [] => true
  | limit, (name, value) :: rest =>
      name.isSome && isHeld reader limit value && membersHeld reader limit rest
end

end Json

end LandmarkMap
