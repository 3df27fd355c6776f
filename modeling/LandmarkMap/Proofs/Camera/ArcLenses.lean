import Mathlib.Analysis.Calculus.MeanValue
import Mathlib.Analysis.SpecialFunctions.Trigonometric.Bounds
import LandmarkMap.Proofs.Camera.MildLenses

set_option autoImplicit false

namespace LandmarkMap

section Arctangent

theorem arctan_upper (r : ℝ) (positive : 0 ≤ r) : Real.arctan r ≤ r :=
  (Real.le_tan (Real.arctan_nonneg.mpr positive) (Real.arctan_lt_pi_div_two r)).trans_eq (Real.tan_arctan r)

theorem arctan_lower (r : ℝ) (positive : 0 ≤ r) : r / (1 + r ^ 2) ≤ Real.arctan r := by
  have angle := Real.arctan_nonneg.mpr positive
  have root : Real.sqrt (1 + r ^ 2) * Real.sqrt (1 + r ^ 2) = 1 + r ^ 2 := Real.mul_self_sqrt (by positivity)
  calc r / (1 + r ^ 2) = Real.sin (Real.arctan r) * Real.cos (Real.arctan r) := by
        rw [Real.sin_arctan, Real.cos_arctan, div_mul_div_comm, mul_one, root]
    _ ≤ Real.sin (Real.arctan r) := mul_le_of_le_one_right (Real.sin_nonneg_of_nonneg_of_le_pi angle (by
        linarith [Real.arctan_lt_pi_div_two r, Real.pi_pos])) (Real.cos_le_one _)
    _ ≤ Real.arctan r := Real.sin_le angle

theorem slope_lipschitz (r x : ℝ) : |1 / (1 + x ^ 2) - 1 / (1 + r ^ 2)| ≤ |x - r| := by
  have here : 0 < 1 + x ^ 2 := by positivity
  have there : 0 < 1 + r ^ 2 := by positivity
  have quotient : 1 / (1 + x ^ 2) - 1 / (1 + r ^ 2) = (x - r) * (-(x + r) / ((1 + x ^ 2) * (1 + r ^ 2))) := by
    field_simp
    ring
  have small : |-(x + r) / ((1 + x ^ 2) * (1 + r ^ 2))| ≤ 1 := by
    rw [abs_div, abs_of_pos (mul_pos here there), div_le_one (mul_pos here there), abs_neg, abs_le]
    constructor <;> nlinarith [sq_nonneg (x + 1), sq_nonneg (x - 1), sq_nonneg (r + 1), sq_nonneg (r - 1), sq_nonneg (x * r)]
  rw [quotient, abs_mul]
  exact mul_le_of_le_one_right (abs_nonneg _) small

theorem arctan_remainder (r s : ℝ) : |Real.arctan s - Real.arctan r - (s - r) * (1 / (1 + r ^ 2))| ≤ (s - r) ^ 2 := by
  have derived : ∀ x ∈ Set.uIcc r s, HasDerivWithinAt (fun x => Real.arctan x - x * (1 / (1 + r ^ 2)))
      (1 / (1 + x ^ 2) - 1 * (1 / (1 + r ^ 2))) (Set.uIcc r s) x := fun x _ =>
    ((Real.hasDerivAt_arctan x).sub ((hasDerivAt_id x).mul_const _)).hasDerivWithinAt
  have bound : ∀ x ∈ Set.uIcc r s, ‖1 / (1 + x ^ 2) - 1 * (1 / (1 + r ^ 2))‖ ≤ |s - r| := by
    intro x between
    rw [one_mul, Real.norm_eq_abs]
    exact (slope_lipschitz r x).trans (Set.abs_sub_left_of_mem_uIcc between)
  have moved := (convex_uIcc r s).norm_image_sub_le_of_norm_hasDerivWithin_le derived bound Set.left_mem_uIcc Set.right_mem_uIcc
  rw [Real.norm_eq_abs, Real.norm_eq_abs, abs_mul_abs_self, ← sq] at moved
  refine (congrArg _ ?_).trans_le moved
  ring

-- The factor of the field-of-view model at an angle of one, and its part of the slope along the point.
noncomputable def arcFactor (r : ℝ) : ℝ := Real.arctan r / r

noncomputable def arcBend (r : ℝ) : ℝ := (1 / (1 + r ^ 2) - arcFactor r) / r ^ 2

theorem factor_bounds (r : ℝ) (some : 0 < r) : 1 / (1 + r ^ 2) ≤ arcFactor r ∧ arcFactor r ≤ 1 := by
  rw [arcFactor, le_div_iff₀ some, div_le_one some, div_mul_eq_mul_div, one_mul]
  exact ⟨arctan_lower r some.le, arctan_upper r some.le⟩

theorem slope_bound (r : ℝ) : 1 - r ^ 2 ≤ 1 / (1 + r ^ 2) := by
  rw [le_div_iff₀ (by positivity)]
  nlinarith [sq_nonneg (r ^ 2)]

theorem bend_bound (r : ℝ) (some : 0 < r) : |arcBend r| ≤ 1 := by
  obtain ⟨lower, upper⟩ := factor_bounds r some
  have slope := slope_bound r
  have square : 0 < r ^ 2 := by positivity
  rw [arcBend, abs_div, abs_of_pos square, div_le_one square, abs_of_nonpos (by linarith)]
  linarith

end Arctangent

section Expansion

variable (y z k : EuclideanSpace ℝ (Fin 2))

noncomputable def arcImage : EuclideanSpace ℝ (Fin 2) := arcFactor ‖y‖ • y

noncomputable def arcSlope : EuclideanSpace ℝ (Fin 2) := radialSlope y k (arcFactor ‖y‖) (arcBend ‖y‖)

theorem arc_shift (away : y ≠ 0) : ‖arcImage y - y‖ ≤ ‖y‖ ^ 2 * ‖y‖ := by
  obtain ⟨lower, upper⟩ := factor_bounds ‖y‖ (norm_pos_iff.mpr away)
  have parts : arcImage y - y = (arcFactor ‖y‖ - 1) • y := by
    rw [arcImage]
    module
  rw [parts]
  refine scaled_bound y _ _ ?_
  rw [abs_of_nonpos (by linarith)]
  linarith [slope_bound ‖y‖]

theorem arc_bend_bound (away : y ≠ 0) : |arcBend ‖y‖ * inner ℝ y k| ≤ ‖y‖ * ‖k‖ := by
  rw [abs_mul]
  calc |arcBend ‖y‖| * |inner ℝ y k| ≤ 1 * (‖y‖ * ‖k‖) :=
        mul_le_mul (bend_bound ‖y‖ (norm_pos_iff.mpr away)) (abs_real_inner_le_norm y k) (abs_nonneg _) zero_le_one
    _ = ‖y‖ * ‖k‖ := one_mul _

theorem arc_slope_shift (away : y ≠ 0) : ‖arcSlope y k - k‖ ≤ 2 * ‖y‖ ^ 2 * ‖k‖ := by
  obtain ⟨lower, upper⟩ := factor_bounds ‖y‖ (norm_pos_iff.mpr away)
  have parts : arcSlope y k - k = (arcFactor ‖y‖ - 1) • k + (arcBend ‖y‖ * inner ℝ y k) • y := by
    rw [arcSlope, radialSlope]
    module
  have first : ‖(arcFactor ‖y‖ - 1) • k‖ ≤ ‖y‖ ^ 2 * ‖k‖ := by
    refine scaled_bound k _ _ ?_
    rw [abs_of_nonpos (by linarith)]
    linarith [slope_bound ‖y‖]
  have second := scaled_bound y _ _ (arc_bend_bound y k away)
  rw [parts]
  linarith [norm_add_le ((arcFactor ‖y‖ - 1) • k) ((arcBend ‖y‖ * inner ℝ y k) • y)]

theorem arc_remainder_parts :
    arcImage y - arcImage z - arcSlope y (y - z) =
      (arcFactor ‖y‖ - arcFactor ‖z‖ - arcBend ‖y‖ * inner ℝ y (y - z)) • z -
        (arcBend ‖y‖ * inner ℝ y (y - z)) • (y - z) := by
  rw [arcImage, arcImage, arcSlope, radialSlope]
  module

theorem arc_remainder (first : y ≠ 0) (second : z ≠ 0) (radius : ℝ) (here : ‖y‖ ≤ radius) (there : ‖z‖ ≤ radius) :
    ‖arcImage y - arcImage z - arcSlope y (y - z)‖ ≤ (1 + 5 / 2 * radius) * ‖y - z‖ ^ 2 := by
  have far : 0 < ‖y‖ := norm_pos_iff.mpr first
  have farther : 0 < ‖z‖ := norm_pos_iff.mpr second
  set shrunk := Real.arctan ‖z‖ - Real.arctan ‖y‖ - (‖z‖ - ‖y‖) * (1 / (1 + ‖y‖ ^ 2)) with missed
  have apart : (‖y‖ - ‖z‖) ^ 2 ≤ ‖y - z‖ ^ 2 := sq_le_sq.mpr ((abs_norm_sub_norm_le y z).trans (le_abs_self _))
  have along : inner ℝ y (y - z) = (‖y‖ ^ 2 - ‖z‖ ^ 2 + ‖y - z‖ ^ 2) / 2 := by
    rw [norm_sub_sq_real, inner_sub_right, real_inner_self_eq_norm_sq]
    ring
  have factor : ‖z‖ * (arcFactor ‖y‖ - arcFactor ‖z‖ - arcBend ‖y‖ * inner ℝ y (y - z)) =
      ‖z‖ * arcBend ‖y‖ * ((‖y‖ - ‖z‖) ^ 2 - ‖y - z‖ ^ 2) / 2 + (‖y‖ - ‖z‖) ^ 2 * (arcBend ‖y‖ * ‖y‖) - shrunk := by
    rw [along, missed, arcBend, arcFactor, arcFactor]
    field_simp
    ring
  have bent := bend_bound ‖y‖ far
  have shrink : |shrunk| ≤ ‖y - z‖ ^ 2 := (arctan_remainder ‖y‖ ‖z‖).trans ((sub_sq_comm _ _).trans_le apart)
  have main : ‖(arcFactor ‖y‖ - arcFactor ‖z‖ - arcBend ‖y‖ * inner ℝ y (y - z)) • z‖ ≤
      (1 + ‖y‖ + 1 / 2 * ‖z‖) * ‖y - z‖ ^ 2 := by
    have scaled : |‖z‖ * arcBend ‖y‖ * ((‖y‖ - ‖z‖) ^ 2 - ‖y - z‖ ^ 2) / 2| ≤ 1 / 2 * ‖z‖ * ‖y - z‖ ^ 2 := by
      have between : |(‖y‖ - ‖z‖) ^ 2 - ‖y - z‖ ^ 2| ≤ ‖y - z‖ ^ 2 := by
        rw [abs_of_nonpos (by linarith)]
        linarith [sq_nonneg (‖y‖ - ‖z‖)]
      have product := mul_le_mul bent between (abs_nonneg _) zero_le_one
      rw [abs_div, abs_two, mul_assoc, abs_mul, abs_mul, abs_of_pos farther]
      linarith [mul_le_mul_of_nonneg_left product farther.le]
    have turned : |(‖y‖ - ‖z‖) ^ 2 * (arcBend ‖y‖ * ‖y‖)| ≤ ‖y‖ * ‖y - z‖ ^ 2 := by
      have length := mul_le_mul_of_nonneg_right bent far.le
      rw [abs_mul, abs_mul, abs_of_nonneg (sq_nonneg (‖y‖ - ‖z‖)), abs_of_pos far]
      linarith [mul_le_mul apart length (mul_nonneg (abs_nonneg _) far.le) (sq_nonneg _)]
    have whole : ‖z‖ * |arcFactor ‖y‖ - arcFactor ‖z‖ - arcBend ‖y‖ * inner ℝ y (y - z)| =
        |‖z‖ * (arcFactor ‖y‖ - arcFactor ‖z‖ - arcBend ‖y‖ * inner ℝ y (y - z))| := by
      rw [abs_mul, abs_of_pos farther]
    rw [norm_smul, Real.norm_eq_abs, mul_comm, whole, factor]
    rw [abs_le] at scaled turned shrink ⊢
    constructor <;> linarith
  have rest : ‖(arcBend ‖y‖ * inner ℝ y (y - z)) • (y - z)‖ ≤ ‖y‖ * ‖y - z‖ ^ 2 := by
    refine (scaled_bound (y - z) _ _ (arc_bend_bound y (y - z) first)).trans_eq ?_
    ring
  have bounded : (1 + 2 * ‖y‖ + 1 / 2 * ‖z‖) * ‖y - z‖ ^ 2 ≤ (1 + 5 / 2 * radius) * ‖y - z‖ ^ 2 :=
    mul_le_mul_of_nonneg_right (by linarith) (sq_nonneg _)
  rw [arc_remainder_parts]
  linarith [norm_sub_le ((arcFactor ‖y‖ - arcFactor ‖z‖ - arcBend ‖y‖ * inner ℝ y (y - z)) • z)
    ((arcBend ‖y‖ * inner ℝ y (y - z)) • (y - z))]

end Expansion

section Coordinates

variable (w : ℝ) (m h : Vec2 ℝ)

-- By how much the model stretches the plane before it takes the angle.
noncomputable def arcScale : ℝ := 2 * Real.tan (w / 2)

theorem arc_factor_even (r : ℝ) : arcFactor |r| = arcFactor r := by
  rcases abs_choice r with same | turned
  · rw [same]
  · rw [turned, arcFactor, Real.arctan_neg, neg_div_neg_eq, arcFactor]

theorem arc_factor_scaled (a : ℝ) (x : EuclideanSpace ℝ (Fin 2)) : arcFactor ‖a • x‖ = arcFactor (a * ‖x‖) := by
  rw [← arc_factor_even (a * ‖x‖), abs_mul, abs_norm, norm_smul, Real.norm_eq_abs]

theorem arc_bend_scaled (a : ℝ) (x : EuclideanSpace ℝ (Fin 2)) :
    arcBend ‖a • x‖ = (1 / (1 + (a * ‖x‖) ^ 2) - arcFactor (a * ‖x‖)) / (a * ‖x‖) ^ 2 := by
  have square : ‖a • x‖ ^ 2 = (a * ‖x‖) ^ 2 := by rw [norm_smul, Real.norm_eq_abs, mul_pow, mul_pow, sq_abs]
  rw [arcBend, arc_factor_scaled, square]

theorem radial_matrix_act (value slope : ℝ) :
    ((Mat.identity.scale value + ⟨#v[#v[m.x * m.x * slope, m.x * m.y * slope], #v[m.y * m.x * slope, m.y * m.y * slope]]⟩ :
      Mat 2 2 ℝ).actInPlane h).point = radialSlope m.point h.point value slope := by
  rw [radialSlope, ← plane_dot, Mat.actInPlane, plane_point_of, matrix_add, matrix_scale, matrix_identity]
  ext i
  fin_cases i <;>
    simp [Vec2.point, Vec2.get, Vec2.dot, Mat.get, Matrix.mulVec, dotProduct, Matrix.one_apply] <;>
    ring

variable (bent : ¬ |w| < FieldOfView.small) (far : ¬ m.norm < FieldOfView.small) (scale : arcScale w ≠ 0)

include bent far scale

theorem arc_lens_image : (FieldOfView.distort w m).point = w⁻¹ • arcImage (arcScale w • m.point) := by
  have away : m.norm ≠ 0 := (small_positive.trans_le (not_lt.mp far)).ne'
  have angle : 2 * m.norm * Real.tan (w / 2) = arcScale w * m.norm := by
    rw [arcScale]
    ring
  rw [FieldOfView.distort, real_abs, if_neg bent, plane_point_scale, factor_far w _ far, arcImage, arc_factor_scaled,
    smul_smul, smul_smul, ← plane_norm, angle, arcFactor]
  congr 1
  field_simp

theorem arc_lens_slope :
    ((FieldOfView.pointJacobian w m).actInPlane h).point =
      w⁻¹ • arcSlope (arcScale w • m.point) (arcScale w • h.point) := by
  have away : m.norm ≠ 0 := (small_positive.trans_le (not_lt.mp far)).ne'
  have angle : 2 * m.norm * Real.tan (w / 2) = arcScale w * m.norm := by
    rw [arcScale]
    ring
  simp only [FieldOfView.pointJacobian, real_abs, if_neg bent, if_neg far]
  rw [radial_matrix_act, factor_far w _ far, arcSlope, radialSlope, radialSlope, arc_factor_scaled, arc_bend_scaled, real_inner_smul_left,
    real_inner_smul_right, ← plane_norm, smul_add, smul_smul, smul_smul, smul_smul, smul_smul, angle, arcFactor]
  have whole : 2 * Real.tan (w / 2) = arcScale w := rfl
  have sum : 1 + (arcScale w * m.norm) ^ 2 ≠ 0 := by positivity
  have bending : w ≠ 0 := abs_pos.mp (small_positive.trans_le (not_lt.mp bent))
  simp only [whole, ← sq]
  congr 1
  · congr 1
    field_simp
  · congr 1
    field_simp

end Coordinates

-- The plane is hardly stretched, and the point is seen under a small angle, but not in the centre.
structure FieldOfView.MildAt (w : ℝ) (n : Vec2 ℝ) : Prop where
  bent : FieldOfView.small ≤ |w|
  scale : 10 * |2 * Real.tan (w / 2) - w| ≤ |w|
  angle : 3 * |2 * Real.tan (w / 2)| * n.norm ≤ 1
  away : 2 * FieldOfView.small ≤ n.norm
  bounded : n.norm ≤ 4000

section Mild

variable (w : ℝ) (n : Vec2 ℝ) (mild : FieldOfView.MildAt w n)

include mild

theorem mild_scale : 0 < |w| ∧ 0 < |arcScale w| ∧ 10 * |arcScale w| ≤ 11 * |w| := by
  have bent := small_positive.trans_le mild.bent
  have upper := abs_sub_abs_le_abs_sub (arcScale w) w
  have lower := abs_sub_abs_le_abs_sub w (arcScale w)
  have close : 10 * |arcScale w - w| ≤ |w| := mild.scale
  rw [abs_sub_comm w] at lower
  exact ⟨bent, by linarith, by linarith⟩

-- A vector and what the model makes of it, both in units of the angle.
theorem mild_difference (x v : EuclideanSpace ℝ (Fin 2)) :
    |w| * ‖w⁻¹ • v - x‖ ≤ ‖v - arcScale w • x‖ + 1 / 10 * |w| * ‖x‖ := by
  obtain ⟨bent, -, -⟩ := mild_scale w n mild
  have nonzero : w ≠ 0 := abs_pos.mp bent
  have parts : w • (w⁻¹ • v - x) = v - arcScale w • x + (arcScale w - w) • x := by
    rw [smul_sub, smul_inv_smul₀ nonzero]
    module
  have close : 10 * |arcScale w - w| ≤ |w| := mild.scale
  rw [← Real.norm_eq_abs, ← norm_smul, parts, Real.norm_eq_abs]
  refine (norm_add_le _ _).trans (add_le_add_right (scaled_bound x _ _ ?_) _)
  linarith

-- Where the bounds hold: from three to five quarters of the distance of the point.
theorem mild_reached (m : Vec2 ℝ) (inner : 3 * n.norm ≤ 4 * m.norm) (outer : 4 * m.norm ≤ 5 * n.norm) :
    ¬ m.norm < FieldOfView.small ∧ arcScale w • m.point ≠ 0 ∧ ‖arcScale w • m.point‖ ≤ 5 / 12 := by
  obtain ⟨_, positive, _⟩ := mild_scale w n mild
  have small := small_positive
  have far : FieldOfView.small ≤ m.norm := by linarith [mild.away]
  have angle : 3 * |arcScale w| * n.norm ≤ 1 := mild.angle
  have length : ‖arcScale w • m.point‖ = |arcScale w| * m.norm := by rw [norm_smul, Real.norm_eq_abs, plane_norm]
  refine ⟨not_lt.mpr far, norm_pos_iff.mp ?_, ?_⟩
  · rw [length]
    exact mul_pos positive (by linarith)
  · rw [length]
    linarith [mul_le_mul_of_nonneg_left outer positive.le]

theorem mild_shift : 4 * (FieldOfView.distort w n - n).norm ≤ n.norm := by
  obtain ⟨bent, positive, scale⟩ := mild_scale w n mild
  have length := plane_nonneg n
  obtain ⟨far, away, _⟩ := mild_reached w n mild n (by linarith) (by linarith)
  have angle : 3 * |arcScale w| * n.norm ≤ 1 := mild.angle
  have size : ‖arcScale w • n.point‖ = |arcScale w| * n.norm := by rw [norm_smul, Real.norm_eq_abs, plane_norm]
  have difference := mild_difference w n mild n.point (arcImage (arcScale w • n.point))
  have image := arc_shift (arcScale w • n.point) away
  rw [← arc_lens_image w n (not_lt.mpr mild.bent) far (abs_pos.mp positive), ← plane_point_sub, ← plane_norm,
    ← plane_norm] at difference
  rw [size] at image
  have square : (|arcScale w| * n.norm) ^ 2 ≤ 1 / 9 := by nlinarith [mul_nonneg positive.le length]
  have cube := mul_le_mul_of_nonneg_right square (mul_nonneg positive.le length)
  have stretched := mul_le_mul_of_nonneg_right scale length
  refine le_of_mul_le_mul_left ?_ bent
  linarith [mul_nonneg bent.le length]

theorem mild_turned (m v : Vec2 ℝ) (inner : 3 * n.norm ≤ 4 * m.norm) (outer : 4 * m.norm ≤ 5 * n.norm) :
    ((FieldOfView.pointJacobian w m).actInPlane v - v).norm ≤ 1 / 2 * v.norm := by
  obtain ⟨bent, positive, scale⟩ := mild_scale w n mild
  have length := plane_nonneg v
  obtain ⟨far, away, reached⟩ := mild_reached w n mild m inner outer
  have size : ‖arcScale w • v.point‖ = |arcScale w| * v.norm := by rw [norm_smul, Real.norm_eq_abs, plane_norm]
  have difference := mild_difference w n mild v.point (arcSlope (arcScale w • m.point) (arcScale w • v.point))
  have slope := arc_slope_shift (arcScale w • m.point) (arcScale w • v.point) away
  rw [← arc_lens_slope w m v (not_lt.mpr mild.bent) far (abs_pos.mp positive), ← plane_point_sub, ← plane_norm,
    ← plane_norm] at difference
  have square : ‖arcScale w • m.point‖ ^ 2 ≤ (5 / 12) ^ 2 := pow_le_pow_left₀ (norm_nonneg _) reached 2
  have turned := mul_le_mul_of_nonneg_right square (norm_nonneg (arcScale w • v.point))
  rw [size] at slope turned
  have stretched := mul_le_mul_of_nonneg_right scale length
  refine le_of_mul_le_mul_left ?_ bent
  linarith [mul_nonneg bent.le length]

theorem mild_missed (m : Vec2 ℝ) (inner : 3 * n.norm ≤ 4 * m.norm) (outer : 4 * m.norm ≤ 5 * n.norm) :
    (FieldOfView.distort w m - FieldOfView.distort w n - (FieldOfView.pointJacobian w m).actInPlane (m - n)).norm ≤
      9 / 4 * |arcScale w| * (m - n).norm ^ 2 := by
  obtain ⟨bent, positive, scale⟩ := mild_scale w n mild
  have length := plane_nonneg n
  have straight := not_lt.mpr mild.bent
  have nonzero := abs_pos.mp positive
  obtain ⟨far, away, reached⟩ := mild_reached w n mild m inner outer
  obtain ⟨there, apart, within⟩ := mild_reached w n mild n (by linarith) (by linarith)
  have remainder := arc_remainder _ _ away apart (5 / 12) reached within
  rw [← smul_sub, ← plane_point_sub, norm_smul (arcScale w), Real.norm_eq_abs] at remainder
  rw [plane_norm, plane_norm, plane_point_sub, plane_point_sub, arc_lens_image w m straight far nonzero,
    arc_lens_image w n straight there nonzero, arc_lens_slope w m _ straight far nonzero, ← smul_sub, ← smul_sub, norm_smul,
    Real.norm_eq_abs, abs_inv, inv_mul_le_iff₀ bent]
  have stretched := mul_le_mul_of_nonneg_right scale (mul_nonneg positive.le (sq_nonneg ‖(m - n).point‖))
  linarith [mul_nonneg bent.le (mul_nonneg positive.le (sq_nonneg ‖(m - n).point‖))]

theorem mild_arc_tame : (Distortion.fieldOfView w).TameAt n (1 / 2) := by
  obtain ⟨bent, positive, _⟩ := mild_scale w n mild
  have angle : 3 * |arcScale w| * n.norm ≤ 1 := mild.angle
  have shift := mild_shift w n mild
  have bounded := mild.bounded
  change 4 * ((Distortion.fieldOfView w).distort n - n).norm ≤ n.norm at shift
  have disc : ∀ m : Vec2 ℝ, (m - n).norm ≤ ((Distortion.fieldOfView w).distort n - n).norm →
      3 * n.norm ≤ 4 * m.norm ∧ 4 * m.norm ≤ 5 * n.norm ∧ 12 * |arcScale w| * (m - n).norm ≤ 1 := by
    intro m near
    have triangle := plane_triangle n m
    rw [norm_flip] at triangle
    refine ⟨by linarith, by linarith [plane_triangle m n], ?_⟩
    linarith [mul_le_mul_of_nonneg_left (near.trans (by linarith : _ ≤ n.norm / 4)) positive.le]
  have missed : ∀ m : Vec2 ℝ, (m - n).norm ≤ ((Distortion.fieldOfView w).distort n - n).norm →
      ((Distortion.fieldOfView w).distort m - (Distortion.fieldOfView w).distort n -
        ((Distortion.fieldOfView w).pointJacobian m).actInPlane (m - n)).norm ≤ 9 / 4 * |arcScale w| * (m - n).norm ^ 2 :=
    fun m near => mild_missed w n mild m (disc m near).1 (disc m near).2.1
  refine near_identity_tame _ n (by linarith) ?_ ?_ ?_
  · intro m v near
    exact mild_turned w n mild m v (disc m near).1 (disc m near).2.1
  · intro m near
    obtain ⟨_, _, narrow⟩ := disc m near
    have flat := mul_le_mul_of_nonneg_right narrow (plane_nonneg (m - n))
    linarith [missed m near, plane_nonneg (m - n)]
  · intro m near
    have scaled := mul_le_mul shift (missed m near) (plane_nonneg _) (plane_nonneg n)
    have narrow := mul_le_mul_of_nonneg_right angle (sq_nonneg (m - n).norm)
    linarith [sq_nonneg (m - n).norm]

end Mild

theorem narrow_arc_mild : FieldOfView.MildAt (2 * Real.arctan (1 / 5)) ⟨1 / 2, 0⟩ := by
  have lower := arctan_lower (1 / 5) (by norm_num)
  have upper := arctan_upper (1 / 5) (by norm_num)
  have scale : 2 * Real.tan (2 * Real.arctan (1 / 5) / 2) = 2 / 5 := by
    rw [mul_div_cancel_left₀ _ two_ne_zero, Real.tan_arctan]
    norm_num
  have length : (⟨1 / 2, 0⟩ : Vec2 ℝ).norm = 1 / 2 := axis_norm (1 / 2) (by norm_num)
  have small : FieldOfView.small = (1 / 100000000 : ℝ) := by norm_num [FieldOfView.small]
  norm_num at lower
  refine ⟨?_, ?_, ?_, ?_, ?_⟩
  · rw [small, abs_of_pos (by linarith)]
    linarith
  · rw [scale, abs_of_nonneg (by linarith), abs_of_pos (by linarith)]
    linarith
  · rw [scale, length]
    norm_num
  · rw [small, length]
    norm_num
  · rw [length]
    norm_num

end LandmarkMap
