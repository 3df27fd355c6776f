import LandmarkMap.Proofs.Camera.BackProjection

set_option autoImplicit false

namespace LandmarkMap

section Elimination

theorem act_in_plane (a : Mat 2 2 ℝ) (v : Vec2 ℝ) :
    a.actInPlane v = ⟨(a.planeRow 0).dot v, (a.planeRow 1).dot v⟩ := by
  simp [Mat.actInPlane, Mat.planeRow, Vec2.dot, Vec2.of, Vec2.get, Matrix.mulVec, dotProduct]

-- The second unknown from the rows without the first, and the first from the upper row.
noncomputable def eliminated (upper lower b : Vec2 ℝ) : Vec2 ℝ :=
  let factor := lower.x * (1 / upper.x)
  let y := (b.y - factor * b.x) / (lower.y - factor * upper.y)
  ⟨(b.x - upper.y * y) / upper.x, y⟩

theorem eliminated_upper (upper lower b : Vec2 ℝ) (first : upper.x ≠ 0) : upper.dot (eliminated upper lower b) = b.x := by
  simp only [eliminated, Vec2.dot]
  rw [mul_div_cancel₀ _ first, sub_add_cancel]

theorem eliminated_lower (upper lower b : Vec2 ℝ) (first : upper.x ≠ 0)
    (second : lower.y - lower.x * (1 / upper.x) * upper.y ≠ 0) : lower.dot (eliminated upper lower b) = b.y := by
  simp only [eliminated, Vec2.dot]
  generalize pivot : lower.y - lower.x * (1 / upper.x) * upper.y = p at second
  have known : lower.y = p + lower.x * (1 / upper.x) * upper.y := by
    rw [← pivot]
    ring
  rw [known]
  field_simp
  ring

theorem real_nonzero (x : ℝ) (nonzero : x ≠ 0) : ¬ (x == 0) = true := fun same => nonzero (of_decide_eq_true same)

theorem second_pivot (upper lower : Vec2 ℝ) (first : upper.x ≠ 0) (regular : upper.x * lower.y - upper.y * lower.x ≠ 0) :
    lower.y - lower.x * (1 / upper.x) * upper.y ≠ 0 := by
  intro none
  apply regular
  field_simp at none
  linear_combination none

theorem solve_regular (a : Mat 2 2 ℝ) (b : Vec2 ℝ) (regular : a.toMatrix.det ≠ 0) :
    ∃ x, a.solve2? b = some x ∧ a.actInPlane x = b := by
  have rows : (a.planeRow 0).x * (a.planeRow 1).y - (a.planeRow 0).y * (a.planeRow 1).x ≠ 0 := by
    rwa [Matrix.det_fin_two] at regular
  by_cases order : Scalar.abs (Vec2.of a.planeRow).x.x < Scalar.abs (Vec2.of a.planeRow).y.x
  · have first : (a.planeRow 1).x ≠ 0 := abs_pos.mp ((abs_nonneg _).trans_lt order)
    have second := second_pivot (a.planeRow 1) (a.planeRow 0) first fun none => rows (by linear_combination -none)
    refine ⟨eliminated (a.planeRow 1) (a.planeRow 0) ⟨b.y, b.x⟩, ?_, ?_⟩
    · simp only [Mat.solve2?, if_pos order]
      exact (if_neg (real_nonzero _ first)).trans (if_neg (real_nonzero _ second))
    · rw [act_in_plane, eliminated_upper _ _ _ first, eliminated_lower _ _ _ first second]
  · have first : (a.planeRow 0).x ≠ 0 := by
      intro none
      have below : |(a.planeRow 1).x| ≤ |(a.planeRow 0).x| := not_lt.mp order
      rw [none, abs_zero, abs_nonpos_iff] at below
      rw [none, below, zero_mul, mul_zero, sub_zero] at rows
      exact rows rfl
    have second := second_pivot (a.planeRow 0) (a.planeRow 1) first rows
    refine ⟨eliminated (a.planeRow 0) (a.planeRow 1) b, ?_, ?_⟩
    · simp only [Mat.solve2?, if_neg order]
      exact (if_neg (real_nonzero _ first)).trans (if_neg (real_nonzero _ second))
    · rw [act_in_plane, eliminated_upper _ _ _ first, eliminated_lower _ _ _ first second]

end Elimination

-- A lens is tame at a point of the image plane if, on the disc around the point through its image,
-- it shortens no direction by more than `stretch`, magnifies within reason, and bends so little that
-- its linearization at a point of the disc misses the image by a part of the squared distance only.
structure Distortion.TameAt (d : Distortion ℝ) (n : Vec2 ℝ) (stretch : ℝ) : Prop where
  reach : (d.distort n - n).norm ≤ 1000
  stretches : ∀ m, (m - n).norm ≤ (d.distort n - n).norm → ∀ v, stretch * v.norm ≤ ((d.pointJacobian m).actInPlane v).norm
  magnifies : ∀ m, (m - n).norm ≤ (d.distort n - n).norm → (d.distort m - d.distort n).norm ≤ 1000000 * (m - n).norm
  bends : ∀ m, (m - n).norm ≤ (d.distort n - n).norm →
    2 * (d.distort n - n).norm * (d.distort m - d.distort n - (d.pointJacobian m).actInPlane (m - n)).norm ≤
      stretch * (m - n).norm ^ 2

section Newton

variable (d : Distortion ℝ) (n : Vec2 ℝ) (stretch : ℝ)

-- What a step leaves of the distance is the image under the inverse derivative of what the
-- linearization misses.
theorem newton_step (tame : d.TameAt n stretch) (positive : 0 < stretch) (m step : Vec2 ℝ)
    (inside : (m - n).norm ≤ (d.distort n - n).norm)
    (solved : (d.pointJacobian m).actInPlane step = d.distort m - d.distort n) :
    2 * (d.distort n - n).norm * (m - step - n).norm ≤ (m - n).norm ^ 2 := by
  have moved : m - step - n = m - n - step := by
    apply plane_ext
    simp only [plane_point_sub]
    exact sub_right_comm _ _ _
  have image : ((d.pointJacobian m).actInPlane (m - step - n)).norm =
      (d.distort m - d.distort n - (d.pointJacobian m).actInPlane (m - n)).norm := by
    rw [moved, act_in_plane_sub, solved, norm_flip]
  have stretched := tame.stretches m inside (m - step - n)
  have radius : 0 ≤ 2 * (d.distort n - n).norm := mul_nonneg zero_le_two (plane_nonneg _)
  rw [image] at stretched
  refine le_of_mul_le_mul_left ?_ positive
  calc stretch * (2 * (d.distort n - n).norm * (m - step - n).norm)
      = 2 * (d.distort n - n).norm * (stretch * (m - step - n).norm) := by ring
    _ ≤ 2 * (d.distort n - n).norm * (d.distort m - d.distort n - (d.pointJacobian m).actInPlane (m - n)).norm :=
        mul_le_mul_of_nonneg_left stretched radius
    _ ≤ stretch * (m - n).norm ^ 2 := tame.bends m inside

-- Two images are not much closer than the points.
theorem tame_apart (tame : d.TameAt n stretch) (some : 0 < (d.distort n - n).norm) (positive : 0 < stretch) (m : Vec2 ℝ)
    (inside : (m - n).norm ≤ (d.distort n - n).norm) :
    stretch * (m - n).norm ≤ 2 * (d.distort m - d.distort n).norm := by
  have stretched := tame.stretches m inside (m - n)
  have bent := tame.bends m inside
  have triangle := plane_triangle ((d.pointJacobian m).actInPlane (m - n)) (d.distort m - d.distort n)
  rw [norm_flip _ (d.distort m - d.distort n)] at triangle
  have half : 2 * (d.distort m - d.distort n - (d.pointJacobian m).actInPlane (m - n)).norm ≤ stretch * (m - n).norm := by
    refine le_of_mul_le_mul_left ?_ some
    calc (d.distort n - n).norm * (2 * (d.distort m - d.distort n - (d.pointJacobian m).actInPlane (m - n)).norm)
        = 2 * (d.distort n - n).norm * (d.distort m - d.distort n - (d.pointJacobian m).actInPlane (m - n)).norm := by ring
      _ ≤ stretch * (m - n).norm ^ 2 := bent
      _ = stretch * (m - n).norm * (m - n).norm := by ring
      _ ≤ stretch * (m - n).norm * (d.distort n - n).norm :=
          mul_le_mul_of_nonneg_left inside (mul_nonneg positive.le (plane_nonneg _))
      _ = (d.distort n - n).norm * (stretch * (m - n).norm) := by ring
  linarith

-- After `k` steps the distance has been squared `k` times, in units of twice the first one.
def WithinSteps (m : Vec2 ℝ) (k : Nat) : Prop := (m - n).norm * 2 ^ 2 ^ k ≤ 2 * (d.distort n - n).norm

theorem within_inside (m : Vec2 ℝ) (k : Nat) (within : WithinSteps d n m k) : (m - n).norm ≤ (d.distort n - n).norm := by
  have doubled : (2 : ℝ) ^ 1 ≤ 2 ^ 2 ^ k := pow_le_pow_right₀ one_le_two Nat.one_le_two_pow
  have bound := mul_le_mul_of_nonneg_left doubled (plane_nonneg (m - n))
  have reached := bound.trans within
  linarith

theorem within_next (some : 0 < (d.distort n - n).norm) (m next : Vec2 ℝ) (k : Nat) (within : WithinSteps d n m k)
    (squared : 2 * (d.distort n - n).norm * (next - n).norm ≤ (m - n).norm ^ 2) : WithinSteps d n next (k + 1) := by
  have power : (2 : ℝ) ^ 2 ^ (k + 1) = (2 ^ 2 ^ k) ^ 2 := by rw [← pow_mul, pow_succ 2 k]
  have unit : 0 < 2 * (d.distort n - n).norm := by linarith
  refine le_of_mul_le_mul_left ?_ unit
  calc 2 * (d.distort n - n).norm * ((next - n).norm * 2 ^ 2 ^ (k + 1))
      = 2 * (d.distort n - n).norm * (next - n).norm * (2 ^ 2 ^ k) ^ 2 := by
        rw [power]
        ring
    _ ≤ (m - n).norm ^ 2 * (2 ^ 2 ^ k) ^ 2 := mul_le_mul_of_nonneg_right squared (sq_nonneg _)
    _ = ((m - n).norm * 2 ^ 2 ^ k) ^ 2 := (mul_pow _ _ _).symm
    _ ≤ (2 * (d.distort n - n).norm) ^ 2 :=
        pow_le_pow_left₀ (mul_nonneg (plane_nonneg _) (pow_nonneg zero_le_two _)) within 2
    _ = 2 * (d.distort n - n).norm * (2 * (d.distort n - n).norm) := sq _

theorem within_accepted (tame : d.TameAt n stretch) (m : Vec2 ℝ) (k : Nat) (enough : 6 ≤ k) (within : WithinSteps d n m k) :
    (d.distort m - d.distort n).norm < Distortion.finalTolerance := by
  have exponent : 64 ≤ 2 ^ k := (Nat.pow_le_pow_right two_pos enough).trans' (by norm_num)
  have power : (2 : ℝ) ^ 64 ≤ 2 ^ 2 ^ k := pow_le_pow_right₀ one_le_two exponent
  have bound := (mul_le_mul_of_nonneg_left power (plane_nonneg (m - n))).trans within
  have magnified := tame.magnifies m (within_inside d n m k within)
  have reach := tame.reach
  norm_num [Distortion.finalTolerance] at *
  linarith

theorem refine_reaches (tame : d.TameAt n stretch) (positive : 0 < stretch) (some : 0 < (d.distort n - n).norm)
    (steps k : Nat) (enough : 6 ≤ k + steps) (m : Vec2 ℝ) (within : WithinSteps d n m k) :
    ∃ found, d.refine? Mat.solve2? (d.distort n) steps m = .some found ∧ (found - n).norm ≤ (d.distort n - n).norm := by
  have inside := within_inside d n m k within
  induction steps generalizing k m with
  | zero => exact ⟨m, if_pos (within_accepted d n stretch tame m k enough within), inside⟩
  | succ steps ih =>
      by_cases early : (d.distort m - d.distort n).normSq < (Distortion.stepTolerance : ℝ) * Distortion.stepTolerance
      · exact ⟨m, if_pos early, inside⟩
      · obtain ⟨step, found, solved⟩ := solve_regular (d.pointJacobian m) (d.distort m - d.distort n)
          (stretching_regular _ stretch positive (tame.stretches m inside))
        have next := within_next d n some m (m - step) k within (newton_step d n stretch tame positive m step inside solved)
        rw [Distortion.refine?, if_neg early, found]
        exact ih (k + 1) (by omega) (m - step) next (within_inside d n _ _ next)

theorem tame_reached (tame : d.TameAt n stretch) (positive : 0 < stretch) (some : 0 < (d.distort n - n).norm) :
    ∃ found, d.refine? Mat.solve2? (d.distort n) 20 (d.distort n) = .some found ∧
      stretch * (found - n).norm < 2 * Distortion.finalTolerance := by
  have start : WithinSteps d n (d.distort n) 0 := by
    rw [WithinSteps, pow_zero, pow_one, mul_comm]
  obtain ⟨found, done, inside⟩ :=
    refine_reaches d n stretch tame positive some 20 0 (by norm_num) (d.distort n) start
  have apart := tame_apart d n stretch tame some positive found inside
  have close := refine_close Mat.solve2? d (d.distort n) 20 (d.distort n) found done
  exact ⟨found, done, by linarith⟩

theorem refine_still (fixed : d.distort n = n) (steps : Nat) :
    d.refine? Mat.solve2? n (steps + 1) n = some n := by
  have none : (d.distort n - n).normSq = 0 := by
    rw [fixed, plane_norm_squared, plane_point_sub, sub_self, norm_zero, sq, mul_zero]
  rw [Distortion.refine?, none]
  exact if_pos (by norm_num [Distortion.stepTolerance])

-- The search starts at the image, so it is done at once where the lens leaves a point in its place.
theorem still_undistorted (fixed : d.distort n = n) : d.undistort? n = some n := by
  by_cases straight : d.kind = .ideal
  · exact undistort_ideal _ d n straight
  · rw [Distortion.undistort?, undistort_bent _ d _ straight]
    exact refine_still d n fixed 19

theorem tame_undistorted (tame : d.TameAt n stretch) (enough : 1 / 500 ≤ stretch) :
    ∃ found, d.undistort? (d.distort n) = some found ∧ (found - n).norm < 1e-6 := by
  by_cases moved : 0 < (d.distort n - n).norm
  · have bent : d.kind ≠ .ideal := by
      intro straight
      rw [ideal_distort d n straight, plane_norm, plane_point_sub, sub_self, norm_zero] at moved
      exact lt_irrefl _ moved
    obtain ⟨found, done, close⟩ := tame_reached d n stretch tame (by linarith) moved
    rw [Distortion.undistort?, undistort_bent _ d _ bent]
    refine ⟨found, done, ?_⟩
    have scaled := mul_le_mul_of_nonneg_right enough (plane_nonneg (found - n))
    norm_num [Distortion.finalTolerance] at *
    linarith
  · have fixed : d.distort n = n := by
      apply plane_ext
      have none := le_antisymm (not_lt.mp moved) (plane_nonneg _)
      rwa [plane_norm, plane_point_sub, norm_eq_zero, sub_eq_zero] at none
    rw [fixed]
    refine ⟨n, still_undistorted d n fixed, ?_⟩
    rw [plane_norm, plane_point_sub, sub_self, norm_zero]
    norm_num

-- A lens whose derivative stays near the identity is tame.
theorem near_identity_tame (reach : (d.distort n - n).norm ≤ 1000)
    (turned : ∀ m v, (m - n).norm ≤ (d.distort n - n).norm → ((d.pointJacobian m).actInPlane v - v).norm ≤ 1 / 2 * v.norm)
    (missed : ∀ m, (m - n).norm ≤ (d.distort n - n).norm →
      (d.distort m - d.distort n - (d.pointJacobian m).actInPlane (m - n)).norm ≤ (m - n).norm)
    (bends : ∀ m, (m - n).norm ≤ (d.distort n - n).norm →
      4 * (d.distort n - n).norm * (d.distort m - d.distort n - (d.pointJacobian m).actInPlane (m - n)).norm ≤
        (m - n).norm ^ 2) : d.TameAt n (1 / 2) := by
  constructor
  · exact reach
  · intro m near v
    have triangle := plane_triangle v ((d.pointJacobian m).actInPlane v)
    rw [norm_flip] at triangle
    linarith [turned m v near]
  · intro m near
    have first := plane_triangle (d.distort m - d.distort n) ((d.pointJacobian m).actInPlane (m - n))
    have second := plane_triangle ((d.pointJacobian m).actInPlane (m - n)) (m - n)
    linarith [turned m (m - n) near, missed m near, plane_nonneg (m - n)]
  · intro m near
    linarith [bends m near]

end Newton

end LandmarkMap
