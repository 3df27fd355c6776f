import LandmarkMap.Scene.Random
import LandmarkMap.Map.Basic

set_option autoImplicit false

/-! Disturbing the positions of landmarks. -/

namespace LandmarkMap

variable {α : Type} [Scalar α]

def positionNoise (source : RandomSource α) (stdDev : α) (draws : Nat) : Vec3 α :=
  Vec3.scale ⟨source.normal draws, source.normal (draws + 1), source.normal (draws + 2)⟩ stdDev

/-- Disturbs the triangulated ones among the landmarks whose position in the list is a multiple of a
stride. The list starts at position `i`; each landmark disturbed takes three draws. -/
def corruptFrom (source : RandomSource α) (stdDev : α) (stride : Nat) :
    (i draws : Nat) → List (Landmark α) → List (Landmark α) × Nat
  | _, _, [] => ([], 0)
  | i, draws, l :: rest =>
      match l.position with
      | some p =>
          if i % stride = 0 then
            let (others, count) := corruptFrom source stdDev stride (i + 1) (draws + 3) rest
            (l.place (p + positionNoise source stdDev draws) :: others, count + 1)
          else
            let (others, count) := corruptFrom source stdDev stride (i + 1) draws rest
            (l :: others, count)
      | none =>
          let (others, count) := corruptFrom source stdDev stride (i + 1) draws rest
          (l :: others, count)

def Map.corrupt (map : Map α) (source : RandomSource α) (stdDev : α) (everyNth : Nat) :
    Except (Fault α) (Map α × Nat) := do
  require (0 < everyNth) .zeroStride
  let (landmarks, count) := corruptFrom source stdDev everyNth 0 0 map.landmarks
  return ({ map with landmarks }, count)

end LandmarkMap
