import LandmarkMap.Geometry.Quaternion

set_option autoImplicit false

/-! Rigid transforms: a rotation followed by a shift. -/

namespace LandmarkMap

structure Pose (α : Type) where
  rotation : Quaternion α
  position : Vec3 α
deriving Repr, DecidableEq

namespace Pose

variable {α : Type} [Scalar α]

def identity : Pose α := ⟨Quaternion.identity, Vec3.zero⟩

def atPosition (p : Vec3 α) : Pose α := ⟨Quaternion.identity, p⟩

instance : Mul (Pose α) := ⟨fun a b =>
  ⟨a.rotation * b.rotation, a.position + a.rotation.rotate b.position⟩⟩

def inverse (t : Pose α) : Pose α :=
  ⟨t.rotation.conj, t.rotation.conj.rotate (-t.position)⟩

def apply (t : Pose α) (p : Vec3 α) : Vec3 α := t.rotation.rotate p + t.position

def applyInverse (t : Pose α) (p : Vec3 α) : Vec3 α := t.rotation.conj.rotate (p - t.position)

/-- Shifts along the segment and rotates along the arc between the quaternions; where there is no arc,
the rotation is that of the nearer end. -/
def interpolate (a b : Pose α) (t : α) : Pose α :=
  let rotation := match a.rotation.slerp? b.rotation t 1e-9 with
    | some q => q
    | none => if t < 0.5 then a.rotation else b.rotation
  ⟨rotation, a.position.lerp b.position t⟩

end Pose

end LandmarkMap
