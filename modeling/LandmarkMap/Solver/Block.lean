import LandmarkMap.Geometry.Quaternion
import LandmarkMap.Word

set_option autoImplicit false

/-!
The flat blocks of numbers that a solver works on: quaternions and vectors read from the front of a
block, and matrices written row by row.
-/

namespace LandmarkMap

namespace Block

variable {α : Type}

def quaternion : List α → Except (Fault α) (Quaternion α)
  | x :: y :: z :: w :: _ => .ok ⟨x, y, z, w⟩
  | _ => .error .quaternionBlockLength

def vector : List α → Except (Fault α) (Vec3 α)
  | x :: y :: z :: _ => .ok ⟨x, y, z⟩
  | _ => .error .vectorBlockLength

def zeros [Scalar α] (size : Nat) : Except (Fault α) (List α) := do
  Word.reserve size 8
  return List.replicate size 0

def writeFront (values buffer : List α) : Except (Fault α) (List α) :=
  if values.length ≤ buffer.length then .ok (values ++ buffer.drop values.length)
  else .error .indexOutOfBounds

def writeAll (values buffer : List α) : Except (Fault α) (List α) :=
  if values.length = buffer.length then .ok values else .error .blockCopyLength

end Block

namespace Mat

variable {α : Type} {m n : Nat}

theorem row_major_bound {m n : Nat} (i : Fin m) (j : Fin n) : i.val * n + j.val < m * n :=
  calc i.val * n + j.val < i.val * n + n := Nat.add_lt_add_left j.isLt _
    _ = (i.val + 1) * n := (Nat.succ_mul i.val n).symm
    _ ≤ m * n := Nat.mul_le_mul_right n i.isLt

def writeRowMajor (a : Mat m n α) (buffer : List α) : Except (Fault α) (List α) :=
  if buffer.length = m * n then .ok a.entries else .error .jacobianBufferLength

def ofRowMajor (m n : Nat) (data : List α) : Except (Fault α) (Mat m n α) :=
  if h : data.length = m * n then
    .ok (of fun i j => data.get ⟨i.val * n + j.val, h ▸ row_major_bound i j⟩)
  else do
    let _ ← Word.mul m n
    throw .bufferLength

end Mat

end LandmarkMap
