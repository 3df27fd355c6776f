import LandmarkMap.Word
import LandmarkMap.Scalar

set_option autoImplicit false

/-! Points in time, counted in nanoseconds. -/

namespace LandmarkMap

structure Timestamp where
  nanos : Int64
deriving DecidableEq, Repr

namespace Timestamp

variable {α : Type} [Scalar α]

def precedes (a b : Timestamp) : Bool := a.nanos ≤ b.nanos

def seconds (t : Timestamp) : α := Scalar.ofInt t.nanos.toInt / 1e9

/-- The seconds from `b` to `a`; the nanoseconds between them must fit 64 bits. -/
def since (a b : Timestamp) : Except (Fault α) α := do
  return Scalar.ofInt (← Word.subSigned a.nanos.toInt b.nanos.toInt) / 1e9

end Timestamp

end LandmarkMap
