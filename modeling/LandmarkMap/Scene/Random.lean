import LandmarkMap.Failure
import LandmarkMap.Scalar

set_option autoImplicit false

/-!
Random numbers as explicit streams. A stream answers every request for its n-th draw, so that what
is built from it is a function and can be said of every stream at once.
-/

namespace LandmarkMap

structure RandomSource (α : Type) where
  /-- The n-th draw, from the range that contains its lower end only. -/
  below : Nat → (low high : α) → α
  /-- The n-th draw, from the range that contains both ends. -/
  upTo : Nat → (low high : α) → α
  normal : Nat → α

namespace RandomSource

variable {α : Type} [Scalar α]

def drawBelow (source : RandomSource α) (n : Nat) (low high : α) : Except (Fault α) α := do
  require (low < high) .emptyRange
  require (Scalar.isFinite (high - low) = true) .openRangeOverflow
  return source.below n low high

/-- A draw from a range with its upper end, which must not be empty. Draws are multiples of a step
that makes the largest of them, just below one, the upper end; so it is the length over that
number which must not overflow. -/
def drawUpTo (source : RandomSource α) (n : Nat) (low high : α) : Except (Fault α) α := do
  require (low ≤ high) .emptyRange
  require (Scalar.isFinite high = true) .unboundedRange
  require (Scalar.isFinite ((high - low) / (1 - Scalar.epsilon)) = true) .closedRangeOverflow
  return source.upTo n low high

def mix (z : UInt64) : UInt64 :=
  let z := (z ^^^ (z >>> 30)) * 0xbf58476d1ce4e5b9
  let z := (z ^^^ (z >>> 27)) * 0x94d049bb133111eb
  z ^^^ (z >>> 31)

def unit (seed : UInt64) (n : Nat) : Float :=
  (mix (seed + (UInt64.ofNat n + 1) * 0x9e3779b97f4a7c15) >>> 11).toFloat * 1.1102230246251565e-16

def ofSeed (seed : Nat) : RandomSource Float :=
  let key := mix (UInt64.ofNat seed)
  { below := fun n low high =>
      let x := low + unit key n * (high - low)
      if x < high then x else low
    upTo := fun n low high =>
      let x := low + unit key n * (high - low)
      if x ≤ high then x else high
    normal := fun n =>
      let other := mix (key + 1)
      let radius := Float.sqrt (-2.0 * Float.log (1.0 - unit other (2 * n)))
      radius * Float.cos (2.0 * Scalar.pi * unit other (2 * n + 1)) }

end RandomSource

end LandmarkMap
