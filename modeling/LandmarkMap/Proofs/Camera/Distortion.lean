import Mathlib.Analysis.SpecialFunctions.Trigonometric.ArctanDeriv
import Mathlib.Analysis.SpecialFunctions.Sqrt
import LandmarkMap.Camera.Distortion
import LandmarkMap.Proofs.Exact.Jacobians

set_option autoImplicit false

namespace LandmarkMap

open Filter Matrix Topology

section RadialTangential

variable (ps : Vector ℝ 4) (m : Vec2 ℝ)

theorem radial_point_jacobian :
    HasJacobian (fun x => (RadialTangential.distort ps (Vec2.of x)).get) (RadialTangential.pointJacobian ps m).toMatrix
      m.get := by
  have x := coordinate_derivative 0 m.get
  have y := coordinate_derivative 1 m.get
  have square := (x.mul x).add (y.mul y)
  have radial := ((square.const_mul ps[0]).const_add 1).add ((square.const_mul ps[1]).mul square)
  have first := ((x.mul radial).add ((x.const_mul (2 * ps[2])).mul y)).add
    ((square.add ((x.const_mul 2).mul x)).const_mul ps[3])
  have second := ((y.mul radial).add ((x.const_mul (2 * ps[3])).mul y)).add
    ((square.add ((y.const_mul 2).mul y)).const_mul ps[2])
  refine jacobian_rows _ _ _ ![_, _] (Fin.forall_fin_two.mpr ⟨first.congr_of_eventuallyEq ?_, second.congr_of_eventuallyEq ?_⟩) ?_
  · refine Eventually.of_forall fun z => ?_
    simp [RadialTangential.distort, Vec2.get, Vec2.of]
  · refine Eventually.of_forall fun z => ?_
    simp [RadialTangential.distort, Vec2.get, Vec2.of]
  · intro i k
    fin_cases i <;> fin_cases k <;> simp [RadialTangential.pointJacobian, Mat.get, Vec2.get] <;> ring

-- The distorted point is affine in the parameters.
theorem radial_parameter_jacobian (x : Fin 4 → ℝ) :
    HasJacobian (fun y => (RadialTangential.distort (Vector.ofFn y) m).get)
      (RadialTangential.parameterJacobian m).toMatrix x := by
  have affine := jacobian_shift _ _ x m.get (jacobian_linear (RadialTangential.parameterJacobian m).toMatrix x)
  refine jacobian_same _ _ _ _ affine fun y => ?_
  funext i
  fin_cases i <;>
    simp [RadialTangential.distort, RadialTangential.parameterJacobian, Mat.get, Vec2.get, mulVec, dotProduct,
      Fin.sum_univ_four] <;>
    ring

end RadialTangential

section FieldOfView

theorem small_positive : (0 : ℝ) < FieldOfView.small := by
  have small : (1e-8 : ℝ) = 1 / 100000000 := by norm_num
  rw [FieldOfView.small, small]
  norm_num

theorem factor_near (w r : ℝ) (near : r < FieldOfView.small) :
    FieldOfView.factor w r =
      ⟨2 * Real.tan (w / 2) / w, 0, ((1 + Real.tan (w / 2) * Real.tan (w / 2)) * w - 2 * Real.tan (w / 2)) / (w * w)⟩ := by
  simp only [FieldOfView.factor, if_pos near, real_two, real_tan]

theorem factor_far (w r : ℝ) (far : ¬ r < FieldOfView.small) :
    FieldOfView.factor w r =
      { value := Real.arctan (2 * r * Real.tan (w / 2)) / w / r
        byRadius := (2 * Real.tan (w / 2) / ((1 + 2 * r * Real.tan (w / 2) * (2 * r * Real.tan (w / 2))) * w) * r -
          Real.arctan (2 * r * Real.tan (w / 2)) / w) / (r * r)
        byAngle := (r * (1 + Real.tan (w / 2) * Real.tan (w / 2)) /
          (1 + 2 * r * Real.tan (w / 2) * (2 * r * Real.tan (w / 2))) * w -
          Real.arctan (2 * r * Real.tan (w / 2))) / (w * w) / r } := by
  simp only [FieldOfView.factor, if_neg far, real_two, real_tan, real_atan]

theorem factor_by_radius (w r : ℝ) (bent : w ≠ 0) (far : FieldOfView.small < r) :
    HasDerivAt (fun r => (FieldOfView.factor w r).value) (FieldOfView.factor w r).byRadius r := by
  have positive : 0 < r := small_positive.trans far
  have bound := ((hasDerivAt_id r).const_mul 2).mul_const (Real.tan (w / 2))
  have value := (bound.arctan.div_const w).div (hasDerivAt_id r) positive.ne'
  refine (value.congr_deriv ?_).congr_of_eventuallyEq ?_
  · rw [factor_far w r far.le.not_gt]
    have sum : 1 + (2 * r * Real.tan (w / 2)) ^ 2 ≠ 0 := by positivity
    simp only [id, mul_one, ← sq]
    field_simp
  · filter_upwards [eventually_gt_nhds far] with s later
    rw [factor_far w s later.le.not_gt]
    rfl

theorem half_tangent (w : ℝ) (pole : Real.cos (w / 2) ≠ 0) :
    HasDerivAt (fun w => Real.tan (w / 2)) ((1 + Real.tan (w / 2) * Real.tan (w / 2)) / 2) w := by
  have half := (Real.hasDerivAt_tan pole).comp w ((hasDerivAt_id w).div_const 2)
  refine half.congr_deriv ?_
  rw [← sq, ← inv_inv (1 + Real.tan (w / 2) ^ 2), Real.inv_one_add_tan_sq pole]
  ring

theorem factor_by_angle (w r : ℝ) (bent : w ≠ 0) (pole : Real.cos (w / 2) ≠ 0) :
    HasDerivAt (fun w => (FieldOfView.factor w r).value) (FieldOfView.factor w r).byAngle w := by
  have tangent := half_tangent w pole
  by_cases near : r < FieldOfView.small
  · have value := (tangent.const_mul 2).div (hasDerivAt_id w) bent
    rw [factor_near w r near]
    refine (value.congr_deriv ?_).congr_of_eventuallyEq (Eventually.of_forall fun v => ?_)
    · simp only [id]
      field_simp
    · exact congrArg FieldOfView.Factor.value (factor_near v r near)
  · have positive : 0 < r := small_positive.trans_le (not_lt.mp near)
    have value := (((tangent.const_mul (2 * r)).arctan).div (hasDerivAt_id w) bent).div_const r
    rw [factor_far w r near]
    refine (value.congr_deriv ?_).congr_of_eventuallyEq (Eventually.of_forall fun v => ?_)
    · simp only [id, ← sq]
      field_simp
    · exact congrArg FieldOfView.Factor.value (factor_far v r near)

theorem norm_continuous : Continuous fun y : Fin 2 → ℝ => (Vec2.of y).norm := by
  simp only [Vec2.norm, Vec2.normSq, Vec2.dot, Vec2.of, real_sqrt]
  fun_prop

theorem norm_derivative (m : Vec2 ℝ) (away : m.norm ≠ 0) :
    HasFDerivAt (fun y : Fin 2 → ℝ => (Vec2.of y).norm)
      (m.norm⁻¹ • (m.x • ContinuousLinearMap.proj 0 + m.y • ContinuousLinearMap.proj 1) : (Fin 2 → ℝ) →L[ℝ] ℝ) m.get := by
  have x := coordinate_derivative 0 m.get
  have y := coordinate_derivative 1 m.get
  have inside : m.get 0 * m.get 0 + m.get 1 * m.get 1 ≠ 0 := fun zero =>
    away ((congrArg Real.sqrt zero).trans Real.sqrt_zero)
  refine (((x.mul x).add (y.mul y)).sqrt inside).congr_fderiv ?_
  change (1 / (2 * m.norm)) • (m.x • ContinuousLinearMap.proj 0 + m.x • ContinuousLinearMap.proj 0 +
    (m.y • ContinuousLinearMap.proj 1 + m.y • ContinuousLinearMap.proj 1) : (Fin 2 → ℝ) →L[ℝ] ℝ) = _
  ext v
  simp
  field_simp
  ring

variable (w : ℝ) (m : Vec2 ℝ)

theorem straight_point_jacobian (straight : |w| < FieldOfView.small) :
    HasJacobian (fun x => (FieldOfView.distort w (Vec2.of x)).get) (FieldOfView.pointJacobian w m).toMatrix m.get := by
  rw [FieldOfView.pointJacobian, real_abs, if_pos straight, matrix_identity]
  refine jacobian_same _ _ _ _ (jacobian_identity m.get) fun x => ?_
  rw [FieldOfView.distort, real_abs, if_pos straight, plane_get_of]

theorem bent_point_jacobian (bent : FieldOfView.small < |w|) (edge : m.norm ≠ FieldOfView.small) :
    HasJacobian (fun x => (FieldOfView.distort w (Vec2.of x)).get) (FieldOfView.pointJacobian w m).toMatrix m.get := by
  have nonzero : w ≠ 0 := abs_pos.mp (small_positive.trans bent)
  have scaled : ∀ x : Fin 2 → ℝ, (FieldOfView.distort w (Vec2.of x)).get =
      (FieldOfView.factor w (Vec2.of x).norm).value • x := by
    intro x
    rw [FieldOfView.distort, real_abs, if_neg bent.not_gt, plane_get_scale, plane_get_of]
  simp only [FieldOfView.pointJacobian, real_abs, if_neg bent.not_gt, scaled]
  have here : Tendsto (fun x : Fin 2 → ℝ => (Vec2.of x).norm) (𝓝 m.get) (𝓝 m.norm) := norm_continuous.tendsto m.get
  by_cases near : m.norm < FieldOfView.small
  · rw [if_pos near, matrix_scale, matrix_identity, factor_near w _ near]
    refine jacobian_near _ _ _ _ (jacobian_smul _ _ _ (2 * Real.tan (w / 2) / w) (jacobian_identity m.get)) ?_
    filter_upwards [here.eventually_lt_const near] with x inside
    rw [factor_near w _ inside]
  · have far := (not_lt.mp near).lt_of_ne' edge
    have value := (factor_by_radius w m.norm nonzero far).comp_hasFDerivAt m.get
      (norm_derivative m (small_positive.trans far).ne')
    rw [if_neg near]
    refine jacobian_congr _ _ _ _ (jacobian_scaled _ _ _ value) ?_
    rw [matrix_add, matrix_scale, matrix_identity]
    ext i k
    fin_cases i <;> fin_cases k <;> simp [Vec2.get, Mat.get] <;> ring

theorem angle_jacobian (edge : |w| ≠ FieldOfView.small) (pole : Real.cos (w / 2) ≠ 0) (x : Fin 1 → ℝ) (here : x 0 = w) :
    HasJacobian (fun y => (FieldOfView.distort (y 0) m).get) (FieldOfView.parameterJacobian w m).toMatrix x := by
  have along : Tendsto (fun y : Fin 1 → ℝ => |y 0|) (𝓝 x) (𝓝 |w|) := by
    rw [← here]
    exact (continuous_apply (0 : Fin 1)).abs.tendsto x
  by_cases straight : |w| < FieldOfView.small
  · simp only [FieldOfView.parameterJacobian, real_abs, if_pos straight, matrix_zero]
    refine jacobian_near _ _ _ _ (jacobian_constant m.get x) ?_
    filter_upwards [along.eventually_lt_const straight] with y still
    rw [FieldOfView.distort, real_abs, if_pos still]
  · have bent := (not_lt.mp straight).lt_of_ne' edge
    have nonzero : w ≠ 0 := abs_pos.mp (small_positive.trans bent)
    have value := factor_by_angle w m.norm nonzero pole
    rw [← here] at value
    simp only [FieldOfView.parameterJacobian, real_abs, if_neg straight]
    have curve := jacobian_curve _ _ m.get x value
    refine jacobian_near _ _ _ _ (jacobian_congr _ _ _ _ curve ?_) ?_
    · ext i k
      rw [here]
      fin_cases i <;> fin_cases k <;> simp [Vec2.get, Mat.get] <;> ring
    · filter_upwards [along.eventually_const_lt bent] with y still
      rw [FieldOfView.distort, real_abs, if_neg still.not_gt, plane_get_scale]

end FieldOfView

-- Where a lens has derivatives: the field-of-view model changes its form at two bounds.
def Distortion.Smooth : Distortion ℝ → Vec2 ℝ → Prop
  | ⟨.ideal, _⟩, _ => True
  | ⟨.radialTangential, _⟩, _ => True
  | ⟨.fieldOfView, ps⟩, m =>
      |FieldOfView.angle ps| ≠ FieldOfView.small ∧ m.norm ≠ FieldOfView.small ∧
        Real.cos (FieldOfView.angle ps / 2) ≠ 0

theorem distort_point_jacobian (d : Distortion ℝ) (m : Vec2 ℝ) (smooth : d.Smooth m) :
    HasJacobian (fun x => (d.distort (Vec2.of x)).get) (d.pointJacobian m).toMatrix m.get := by
  obtain ⟨kind, ps⟩ := d
  cases kind with
  | ideal =>
      have kept : (Distortion.pointJacobian ⟨.ideal, ps⟩ m).toMatrix = 1 := matrix_identity
      rw [kept]
      exact jacobian_same _ _ _ _ (jacobian_identity m.get) fun x => plane_get_of x
  | radialTangential => exact radial_point_jacobian ps m
  | fieldOfView =>
      obtain ⟨bound, edge, _⟩ := smooth
      rcases lt_or_gt_of_ne bound with straight | bent
      · exact straight_point_jacobian _ m straight
      · exact bent_point_jacobian _ m bent edge

theorem distort_parameter_jacobian (d : Distortion ℝ) (m : Vec2 ℝ) (smooth : d.Smooth m) :
    HasJacobian (fun x => (Distortion.distort ⟨d.kind, Vector.ofFn x⟩ m).get) (d.parameterJacobian m).toMatrix
      d.parameters.get := by
  obtain ⟨kind, ps⟩ := d
  cases kind with
  | ideal =>
      have none : (Distortion.parameterJacobian ⟨.ideal, ps⟩ m).toMatrix = 0 := matrix_zero
      rw [none]
      exact jacobian_constant m.get ps.get
  | radialTangential => exact radial_parameter_jacobian m ps.get
  | fieldOfView =>
      obtain ⟨edge, _, pole⟩ := smooth
      have angle : ∀ x : Fin 1 → ℝ, FieldOfView.angle (Vector.ofFn x) = x 0 := fun x => Vector.getElem_ofFn _
      change HasJacobian (fun x : Fin 1 → ℝ => (FieldOfView.distort (FieldOfView.angle (Vector.ofFn x)) m).get) _ _
      simp only [angle]
      exact angle_jacobian _ m edge pole ps.get rfl

end LandmarkMap
