import LandmarkMap.Solver.CostTerm
import LandmarkMap.Geometry.Bearing

set_option autoImplicit false

/-! The updates of quaternion, bearing and Euclidean parameter blocks. -/

namespace LandmarkMap.Parameterization

variable {α : Type} [Scalar α]

def quaternion : Parameterization α where
  globalSize := 4
  localSize := 3
  plus x delta out := do
    let q ← Block.quaternion x
    let delta : Vec3 α := ⟨← fetch delta 0, ← fetch delta 1, ← fetch delta 2⟩
    if delta.isFinite = false then return (false, out)
    else return (true, ← Block.writeAll (Quaternion.exp delta * q).toList out)
  jacobian x buffer := do
    let q ← Block.quaternion x
    return (true, ← q.plusJacobian.writeRowMajor buffer)

def bearingOf (x : List α) : Except (Fault α) (Bearing α) := do
  return ⟨(← Block.quaternion x).normalize⟩

def bearing : Parameterization α where
  globalSize := 4
  localSize := 2
  plus x delta out := do
    let delta : Vec2 α := ⟨← fetch delta 0, ← fetch delta 1⟩
    if delta.isFinite = false then return (false, out)
    else
      let moved := (← bearingOf x).plus delta
      return (true, ← Block.writeAll moved.rotation.toList out)
  jacobian x buffer := do
    return (true, ← (← bearingOf x).plusJacobian.writeRowMajor buffer)

def addBlocks : (x delta out : List α) → List α
  | x :: xs, d :: ds, _ :: out => (x + d) :: addBlocks xs ds out
  | _, _, out => out

def writeDiagonal (size : Nat) : (n i : Nat) → List α → Except (Fault α) (List α)
  | 0, _, buffer => .ok buffer
  | n + 1, i, buffer =>
      if i * size + i < buffer.length then
        writeDiagonal size n (i + 1) (buffer.set (i * size + i) 1)
      else .error .indexOutOfBounds

def euclideanOf (size : Nat) : Parameterization α where
  globalSize := size
  localSize := size
  plus x delta out := return (true, addBlocks x delta out)
  jacobian _ buffer := do
    return (true, ← writeDiagonal size size 0 (List.replicate buffer.length 0))

def euclidean (size : Nat) : Except (Fault α) (Parameterization α) := do
  require (0 < size) .emptyParameterBlock
  return euclideanOf size

end LandmarkMap.Parameterization
