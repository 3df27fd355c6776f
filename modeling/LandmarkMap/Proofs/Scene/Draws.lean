import LandmarkMap.Proofs.SignedScalars
import LandmarkMap.Proofs.Outcome
import LandmarkMap.Scene.Synthetic

set_option autoImplicit false

namespace LandmarkMap

-- What the depths and the keypoints of a scene ask of comparisons and of adding zero. Rounded numbers keep it as the
-- reals do.
class OrderedScalar (α : Type) [Scalar α] : Prop where
  le_self : ∀ a : α, 0 < a → a ≤ a
  le_of_lt : ∀ a b : α, a < b → a ≤ b
  add_zero : ∀ a : α, Same (a + 0) a

instance ordered_real : OrderedScalar ℝ where
  le_self a _ := le_refl a
  le_of_lt _ _ less := le_of_lt less
  add_zero a := .inl (add_zero a)

instance ordered_double : OrderedScalar Float where
  le_self a positive := Double.number_le_self a ((Double.lt_places 0 a).mp positive).2.1
  le_of_lt a b less := by
    obtain ⟨first, second, before⟩ := (Double.lt_places a b).mp less
    exact (Double.le_places a b).mpr ⟨first, second, before.le⟩
  add_zero := Double.sum_with_zero

variable {α : Type} [Scalar α]

-- The stream keeps to the ranges that are asked for.
structure RandomSource.InRange (source : RandomSource α) : Prop where
  below : ∀ n low high, low < high → low ≤ source.below n low high ∧ source.below n low high < high
  upTo : ∀ n low high, low ≤ high → low ≤ source.upTo n low high ∧ source.upTo n low high ≤ high

def OpenRange (low high : α) : Prop := low < high ∧ Scalar.isFinite (high - low) = true

def ClosedRange (low high : α) : Prop :=
  low ≤ high ∧ Scalar.isFinite high = true ∧ Scalar.isFinite ((high - low) / (1 - Scalar.epsilon)) = true

section Draws

variable (source : RandomSource α) (n : Nat) (low high : α)

theorem draw_below_ok (x : α) : source.drawBelow n low high = .ok x ↔ OpenRange low high ∧ source.below n low high = x := by
  rw [RandomSource.drawBelow, require_bind_ok, require_bind_ok, pure_ok, OpenRange, and_assoc]

theorem draw_up_to_ok (x : α) : source.drawUpTo n low high = .ok x ↔ ClosedRange low high ∧ source.upTo n low high = x := by
  rw [RandomSource.drawUpTo, require_bind_ok, require_bind_ok, require_bind_ok, pure_ok, ClosedRange, and_assoc, and_assoc]

end Draws

namespace Scene

variable (c : SceneConfig α) (source : RandomSource α)

-- The place of landmark `i` can be drawn: no range that it is drawn from is empty or too wide.
structure Drawable (i : Nat) : Prop where
  depth : (depthRange c i).1 < (depthRange c i).2 → OpenRange (depthRange c i).1 (depthRange c i).2
  along : ClosedRange 0 (trajectoryLength c)
  aside : OpenRange (-0.3 : α) 0.3
  up : OpenRange (-0.25 : α) 0.25

-- A point at a depth that is known, and the draws made after it.
def drawPlace (draws : Nat) (length depth : α) : Except (Fault α) (Vec3 α × Nat) := do
  let along ← source.drawUpTo draws 0 length
  let aside ← source.drawBelow (draws + 1) (-0.3) 0.3
  let up ← source.drawBelow (draws + 2) (-0.25) 0.25
  return (⟨along + aside * depth, depth, up * depth⟩, draws + 3)

theorem draw_point_parts (draws : Nat) (length : α) (range : α × α) :
    drawPoint source draws length range =
      if range.1 < range.2 then
        source.drawBelow draws range.1 range.2 >>= drawPlace source (draws + 1) length
      else drawPlace source draws length range.1 := by
  rw [drawPoint]
  by_cases wide : range.1 < range.2
  · simp only [if_pos wide, pure_bind]
    rfl
  · simp only [if_neg wide, pure_bind]
    rfl

theorem draw_place_ok (draws : Nat) (length depth : α) (p : Vec3 α) (after : Nat)
    (drawn : drawPlace source draws length depth = .ok (p, after)) :
    ClosedRange 0 length ∧ OpenRange (-0.3 : α) 0.3 ∧ OpenRange (-0.25 : α) 0.25 ∧ p.y = depth := by
  obtain ⟨along, alongDrawn, drawn⟩ := (bind_ok _ _ _).mp drawn
  obtain ⟨aside, asideDrawn, drawn⟩ := (bind_ok _ _ _).mp drawn
  obtain ⟨up, upDrawn, drawn⟩ := (bind_ok _ _ _).mp drawn
  cases drawn
  exact ⟨((draw_up_to_ok _ _ _ _ _).mp alongDrawn).1, ((draw_below_ok _ _ _ _ _).mp asideDrawn).1,
    ((draw_below_ok _ _ _ _ _).mp upDrawn).1, rfl⟩

theorem place_drawn (draws : Nat) (length depth : α) (along : ClosedRange 0 length) (aside : OpenRange (-0.3 : α) 0.3)
    (up : OpenRange (-0.25 : α) 0.25) : ∃ drawn, drawPlace source draws length depth = .ok drawn := by
  rw [drawPlace, (draw_up_to_ok source draws _ _ _).mpr ⟨along, rfl⟩, ok_bind,
    (draw_below_ok source (draws + 1) _ _ _).mpr ⟨aside, rfl⟩, ok_bind,
    (draw_below_ok source (draws + 2) _ _ _).mpr ⟨up, rfl⟩, ok_bind]
  exact ⟨_, rfl⟩

-- A depth that was drawn, or the only one that there is.
def DepthFrom (range : α × α) (depth : α) : Prop :=
  (range.1 < range.2 ∧ ∃ n, source.below n range.1 range.2 = depth) ∨ (¬ range.1 < range.2 ∧ range.1 = depth)

theorem draw_point_ok (i draws : Nat) (p : Vec3 α) (after : Nat)
    (drawn : drawPoint source draws (trajectoryLength c) (depthRange c i) = .ok (p, after)) :
    Drawable c i ∧ DepthFrom source (depthRange c i) p.y := by
  rw [draw_point_parts] at drawn
  by_cases wide : (depthRange c i).1 < (depthRange c i).2
  · rw [if_pos wide] at drawn
    obtain ⟨depth, depthDrawn, drawn⟩ := (bind_ok _ _ _).mp drawn
    obtain ⟨allowed, value⟩ := (draw_below_ok _ _ _ _ _).mp depthDrawn
    obtain ⟨along, aside, up, same⟩ := draw_place_ok source _ _ _ _ _ drawn
    exact ⟨⟨fun _ => allowed, along, aside, up⟩, .inl ⟨wide, draws, value.trans same.symm⟩⟩
  · rw [if_neg wide] at drawn
    obtain ⟨along, aside, up, same⟩ := draw_place_ok source _ _ _ _ _ drawn
    exact ⟨⟨fun narrow => absurd narrow wide, along, aside, up⟩, .inr ⟨wide, same.symm⟩⟩

theorem point_drawn (i draws : Nat) (drawable : Drawable c i) :
    ∃ drawn, drawPoint source draws (trajectoryLength c) (depthRange c i) = .ok drawn := by
  rw [draw_point_parts]
  by_cases wide : (depthRange c i).1 < (depthRange c i).2
  · rw [if_pos wide, (draw_below_ok source draws _ _ _).mpr ⟨drawable.depth wide, rfl⟩, ok_bind]
    exact place_drawn source _ _ _ drawable.along drawable.aside drawable.up
  · rw [if_neg wide]
    exact place_drawn source _ _ _ drawable.along drawable.aside drawable.up

theorem draw_point_faults (i draws : Nat) :
    Faults (drawPoint source draws (trajectoryLength c) (depthRange c i)) ↔ ¬ Drawable c i := by
  constructor
  · rintro fault drawable
    obtain ⟨_, drawn⟩ := point_drawn c source i draws drawable
    rw [drawn] at fault
    exact ok_never_faults _ fault
  · intro undrawable
    cases drawn : drawPoint source draws (trajectoryLength c) (depthRange c i) with
    | error fault => exact error_faults fault
    | ok point => exact absurd (draw_point_ok c source i draws point.1 point.2 drawn).1 undrawable

theorem depth_in_range [OrderedScalar α] (inRange : source.InRange) (range : α × α) (depth : α)
    (positive : 0 < range.1) (ordered : range.1 ≤ range.2) (drawn : DepthFrom source range depth) :
    range.1 ≤ depth ∧ depth ≤ range.2 := by
  rcases drawn with ⟨wide, n, rfl⟩ | ⟨_, rfl⟩
  · obtain ⟨low, high⟩ := inRange.below n range.1 range.2 wide
    exact ⟨low, OrderedScalar.le_of_lt _ _ high⟩
  · exact ⟨OrderedScalar.le_self _ positive, ordered⟩

def SamePoint (p q : Vec2 α) : Prop := Same p.x q.x ∧ Same p.y q.y

theorem no_noise [OrderedScalar α] (draws : Nat) (stdDev : α) (none : (stdDev == 0) = true) (keypoint : Vec2 α) :
    SamePoint (keypoint + (drawNoise source draws stdDev).1) keypoint := by
  have still : (drawNoise source draws stdDev).1 = Vec2.zero := by rw [drawNoise, if_pos none]
  rw [still]
  exact ⟨OrderedScalar.add_zero keypoint.x, OrderedScalar.add_zero keypoint.y⟩

end Scene

end LandmarkMap
