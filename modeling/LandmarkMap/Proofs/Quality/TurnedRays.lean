import LandmarkMap.Proofs.Geometry.Poses
import LandmarkMap.Quality.Metrics

set_option autoImplicit false

namespace LandmarkMap

-- The area of the parallelogram of two vectors, by their lengths and their inner product.
theorem cross_norm (v w : Vec3 ℝ) : (v.cross w).normSq = v.dot v * w.dot w - v.dot w ^ 2 := by
  simp only [Vec3.normSq, Vec3.dot, Vec3.cross]
  ring

-- An angle is read off the inner products of its two rays.
theorem angle_of_products (v w p q : Vec3 ℝ) (first : p.dot p = v.dot v) (second : q.dot q = w.dot w)
    (both : p.dot q = v.dot w) : Rays.angle p q = Rays.angle v w := by
  have area : (p.cross q).norm = (v.cross w).norm := by
    rw [Vec3.norm, Vec3.norm, cross_norm, cross_norm, first, second, both]
  rw [Rays.angle, Rays.angle, area, both]

section Kept

variable (f : Vec3 ℝ → Vec3 ℝ) (kept : ∀ v w, Rays.angle (f v) (f w) = Rays.angle v w)

include kept

theorem kept_widest (ray : Vec3 ℝ) (others : List (Vec3 ℝ)) (widest : ℝ) :
    Rays.widestFrom (f ray) (others.map f) widest = Rays.widestFrom ray others widest := by
  simp only [Rays.widestFrom, List.foldl_map, kept]

theorem kept_max_angle (rays : List (Vec3 ℝ)) : Rays.maxAngle (rays.map f) = Rays.maxAngle rays := by
  have above : ∀ widest : ℝ, Rays.widestAbove (rays.map f) widest = Rays.widestAbove rays widest := by
    induction rays with
    | nil => exact fun _ => rfl
    | cons ray rest ih =>
        intro widest
        rw [List.map_cons, Rays.widestAbove, Rays.widestAbove, kept_widest f kept, ih]
  exact above 0

end Kept

noncomputable def ObserverRay.turned (q : Quaternion ℝ) (r : ObserverRay ℝ) : ObserverRay ℝ := ⟨q.rotate r.ray, r.depth⟩

variable (q : Quaternion ℝ) (unit : q.IsUnit)

include unit

theorem turned_angle (v w : Vec3 ℝ) : Rays.angle (q.rotate v) (q.rotate w) = Rays.angle v w :=
  angle_of_products v w _ _ (rotate_dot q unit v v) (rotate_dot q unit w w) (rotate_dot q unit v w)

theorem turned_max_angle (rays : List (Vec3 ℝ)) : Rays.maxAngle (rays.map q.rotate) = Rays.maxAngle rays :=
  kept_max_angle q.rotate (turned_angle q unit) rays

theorem turned_length (r : ObserverRay ℝ) : (r.turned q).length = r.length := rotate_norm q unit r.ray

theorem turned_closer (best : Option (ObserverRay ℝ)) (r : ObserverRay ℝ) :
    ObserverRay.closer (best.map (·.turned q)) (r.turned q) = (ObserverRay.closer best r).map (·.turned q) := by
  cases best with
  | none =>
      simp only [ObserverRay.closer, Option.map_none, turned_length q unit]
      rfl
  | some b =>
      simp only [ObserverRay.closer, Option.map_some, turned_length q unit]
      by_cases nearer : r.length < b.length
      · rw [if_pos nearer, if_pos nearer]
        rfl
      · rw [if_neg nearer, if_neg nearer]
        rfl

theorem turned_closest (rays : List (ObserverRay ℝ)) :
    ObserverRay.closest? (rays.map (·.turned q)) = (ObserverRay.closest? rays).map (·.turned q) := by
  have after : ∀ best : Option (ObserverRay ℝ), (rays.map (·.turned q)).foldl ObserverRay.closer (best.map (·.turned q)) =
      (rays.foldl ObserverRay.closer best).map (·.turned q) := by
    induction rays with
    | nil => exact fun _ => rfl
    | cons r rest ih =>
        intro best
        rw [List.map_cons, List.foldl_cons, List.foldl_cons, turned_closer q unit, ih]
  exact after none

-- Metrics read lengths, depths and angles only.
theorem turned_metrics (rays : List (ObserverRay ℝ)) :
    QualityMetrics.ofRays (rays.map (·.turned q)) = QualityMetrics.ofRays rays := by
  have usable : (rays.map (·.turned q)).filter ObserverRay.isUsable =
      (rays.filter ObserverRay.isUsable).map (·.turned q) := by
    rw [List.filter_map]
    congr 2
    funext r
    rw [Function.comp_apply, ObserverRay.isUsable, ObserverRay.isUsable, turned_length q unit]
  have signed : ObserverRay.signedLength ∘ (·.turned q) = ObserverRay.signedLength := by
    funext r
    rw [Function.comp_apply, ObserverRay.signedLength, ObserverRay.signedLength, turned_length q unit]
    rfl
  have directions : ∀ others : List (ObserverRay ℝ), (others.map (·.turned q)).map (·.ray) =
      (others.map (·.ray)).map q.rotate := by
    intro others
    rw [List.map_map, List.map_map]
    rfl
  simp only [QualityMetrics.ofRays, usable, List.length_map, turned_closest q unit, Option.map_map, signed, directions,
    turned_max_angle q unit]

end LandmarkMap
