import LandmarkMap.Proofs.Camera.Undistortion

set_option autoImplicit false

namespace LandmarkMap

section Expansion

variable (k1 k2 : ℝ) (t x h : EuclideanSpace ℝ (Fin 2)) (radius : ℝ)

-- Where `x` is multiplied by what its length decides: a multiple of `h`, and a part along `x`.
noncomputable def radialSlope (value slope : ℝ) : EuclideanSpace ℝ (Fin 2) := value • h + (slope * inner ℝ x h) • x

-- How much longer the radial-tangential model makes a vector, the tangential part along `t`.
noncomputable def lensGain : ℝ := k1 * ‖x‖ ^ 2 + k2 * ‖x‖ ^ 4 + 2 * inner ℝ t x

noncomputable def lensImage : EuclideanSpace ℝ (Fin 2) := x + lensGain k1 k2 t x • x + ‖x‖ ^ 2 • t

noncomputable def lensSlope : EuclideanSpace ℝ (Fin 2) :=
  radialSlope x h (1 + lensGain k1 k2 t x) (2 * k1 + 4 * k2 * ‖x‖ ^ 2) + (2 * inner ℝ t h) • x + (2 * inner ℝ x h) • t

theorem scaled_bound (s bound : ℝ) (small : |s| ≤ bound) : ‖s • x‖ ≤ bound * ‖x‖ := by
  rw [norm_smul, Real.norm_eq_abs]
  exact mul_le_mul_of_nonneg_right small (norm_nonneg x)

theorem inner_bound (inside : ‖x‖ ≤ radius) : |inner ℝ x h| ≤ radius * ‖h‖ :=
  (abs_real_inner_le_norm x h).trans (mul_le_mul_of_nonneg_right inside (norm_nonneg h))

theorem gain_bound (inside : ‖x‖ ≤ radius) :
    |lensGain k1 k2 t x| ≤ |k1| * radius ^ 2 + |k2| * radius ^ 4 + 2 * ‖t‖ * radius := by
  have square : ‖x‖ ^ 2 ≤ radius ^ 2 := pow_le_pow_left₀ (norm_nonneg x) inside 2
  have fourth : ‖x‖ ^ 4 ≤ radius ^ 4 := pow_le_pow_left₀ (norm_nonneg x) inside 4
  have across : |inner ℝ t x| ≤ ‖t‖ * radius :=
    (abs_real_inner_le_norm t x).trans (mul_le_mul_of_nonneg_left inside (norm_nonneg t))
  calc |lensGain k1 k2 t x| ≤ |k1 * ‖x‖ ^ 2| + |k2 * ‖x‖ ^ 4| + |2 * inner ℝ t x| := abs_add_three _ _ _
    _ = |k1| * ‖x‖ ^ 2 + |k2| * ‖x‖ ^ 4 + 2 * |inner ℝ t x| := by
        rw [abs_mul, abs_mul, abs_mul, abs_two, abs_of_nonneg (sq_nonneg ‖x‖), abs_of_nonneg (by positivity : 0 ≤ ‖x‖ ^ 4)]
    _ ≤ |k1| * radius ^ 2 + |k2| * radius ^ 4 + 2 * ‖t‖ * radius := by
        rw [mul_assoc 2]
        gcongr

theorem image_shift (inside : ‖x‖ ≤ radius) :
    ‖lensImage k1 k2 t x - x‖ ≤ (|k1| * radius ^ 2 + |k2| * radius ^ 4 + 3 * ‖t‖ * radius) * ‖x‖ := by
  have parts : lensImage k1 k2 t x - x = lensGain k1 k2 t x • x + ‖x‖ ^ 2 • t := by
    rw [lensImage]
    module
  have first := scaled_bound x _ _ (gain_bound k1 k2 t x radius inside)
  have second : ‖‖x‖ ^ 2 • t‖ ≤ ‖t‖ * radius * ‖x‖ := by
    rw [norm_smul, norm_pow, norm_norm, sq]
    calc ‖x‖ * ‖x‖ * ‖t‖ = ‖t‖ * ‖x‖ * ‖x‖ := by ring
      _ ≤ ‖t‖ * radius * ‖x‖ := by gcongr
  rw [parts]
  linarith [norm_add_le (lensGain k1 k2 t x • x) (‖x‖ ^ 2 • t)]

theorem slope_shift (inside : ‖x‖ ≤ radius) :
    ‖lensSlope k1 k2 t x h - h‖ ≤ (3 * |k1| * radius ^ 2 + 5 * |k2| * radius ^ 4 + 6 * ‖t‖ * radius) * ‖h‖ := by
  have parts : lensSlope k1 k2 t x h - h = lensGain k1 k2 t x • h +
      ((2 * k1 + 4 * k2 * ‖x‖ ^ 2) * inner ℝ x h + 2 * inner ℝ t h) • x + (2 * inner ℝ x h) • t := by
    rw [lensSlope, radialSlope]
    module
  have positive : 0 ≤ radius := (norm_nonneg x).trans inside
  have along := inner_bound x h radius inside
  have first := scaled_bound h _ _ (gain_bound k1 k2 t x radius inside)
  have second : ‖((2 * k1 + 4 * k2 * ‖x‖ ^ 2) * inner ℝ x h + 2 * inner ℝ t h) • x‖ ≤
      ((2 * |k1| + 4 * |k2| * radius ^ 2) * (radius * ‖h‖) + 2 * (‖t‖ * ‖h‖)) * radius := by
    refine (scaled_bound x _ _ ?_).trans (mul_le_mul_of_nonneg_left inside (by positivity))
    calc |(2 * k1 + 4 * k2 * ‖x‖ ^ 2) * inner ℝ x h + 2 * inner ℝ t h|
        ≤ (|2 * k1| + |4 * k2 * ‖x‖ ^ 2|) * |inner ℝ x h| + |2 * inner ℝ t h| := by
          refine (abs_add_le _ _).trans (add_le_add_left ?_ _)
          rw [abs_mul]
          exact mul_le_mul_of_nonneg_right (abs_add_le _ _) (abs_nonneg _)
      _ = (2 * |k1| + 4 * |k2| * ‖x‖ ^ 2) * |inner ℝ x h| + 2 * |inner ℝ t h| := by
          rw [abs_mul, abs_mul, abs_mul, abs_mul, abs_two, abs_of_nonneg (sq_nonneg ‖x‖), abs_of_pos (by norm_num : (0 : ℝ) < 4)]
      _ ≤ (2 * |k1| + 4 * |k2| * radius ^ 2) * (radius * ‖h‖) + 2 * (‖t‖ * ‖h‖) := by
          gcongr
          exact abs_real_inner_le_norm t h
  have third : ‖(2 * inner ℝ x h) • t‖ ≤ 2 * (radius * ‖h‖) * ‖t‖ := by
    refine scaled_bound t _ _ ?_
    rw [abs_mul, abs_two]
    gcongr
  rw [parts]
  refine norm_add₃_le.trans ?_
  linarith

-- What the linearization misses, each term of second order at least.
theorem image_remainder :
    lensImage k1 k2 t x - lensImage k1 k2 t (x - h) - lensSlope k1 k2 t x h =
      -(k1 • (‖h‖ ^ 2 • x - (‖x - h‖ ^ 2 - ‖x‖ ^ 2) • h) +
        k2 • ((2 * ‖x‖ ^ 2 * ‖h‖ ^ 2 + (‖x - h‖ ^ 2 - ‖x‖ ^ 2) ^ 2) • x -
          ((‖x - h‖ ^ 2 - ‖x‖ ^ 2) * (‖x‖ ^ 2 + ‖x - h‖ ^ 2)) • h) +
        (‖h‖ ^ 2 • t + (2 * inner ℝ t h) • h)) := by
  have fourth : ∀ y : EuclideanSpace ℝ (Fin 2), ‖y‖ ^ 4 = (‖y‖ ^ 2) ^ 2 := fun y => by ring
  rw [lensImage, lensImage, lensSlope, radialSlope, lensGain, lensGain, fourth x, fourth (x - h), norm_sub_sq_real, inner_sub_right]
  module

theorem square_difference (here : ‖x‖ ≤ radius) (there : ‖x - h‖ ≤ radius) :
    |‖x - h‖ ^ 2 - ‖x‖ ^ 2| ≤ 2 * radius * ‖h‖ := by
  have factors : ‖x - h‖ ^ 2 - ‖x‖ ^ 2 = (‖x - h‖ + ‖x‖) * (‖x - h‖ - ‖x‖) := by ring
  have apart : |‖x - h‖ - ‖x‖| ≤ ‖h‖ := by
    have reversed := abs_norm_sub_norm_le (x - h) x
    rwa [sub_sub_cancel_left, norm_neg] at reversed
  rw [factors, abs_mul, abs_of_nonneg (add_nonneg (norm_nonneg _) (norm_nonneg _))]
  exact mul_le_mul (by linarith) apart (abs_nonneg _) (by linarith [norm_nonneg x])

theorem remainder_bound (here : ‖x‖ ≤ radius) (there : ‖x - h‖ ≤ radius) :
    ‖lensImage k1 k2 t x - lensImage k1 k2 t (x - h) - lensSlope k1 k2 t x h‖ ≤
      (3 * |k1| * radius + 10 * |k2| * radius ^ 3 + 3 * ‖t‖) * ‖h‖ ^ 2 := by
  have positive : 0 ≤ radius := (norm_nonneg x).trans here
  have change := square_difference x h radius here there
  have first : ‖‖h‖ ^ 2 • x - (‖x - h‖ ^ 2 - ‖x‖ ^ 2) • h‖ ≤ 3 * radius * ‖h‖ ^ 2 := by
    have length : ‖‖h‖ ^ 2 • x‖ ≤ ‖h‖ ^ 2 * radius := by
      rw [norm_smul, norm_pow, norm_norm]
      gcongr
    linarith [norm_sub_le (‖h‖ ^ 2 • x) ((‖x - h‖ ^ 2 - ‖x‖ ^ 2) • h), scaled_bound h _ _ change]
  have second : ‖(2 * ‖x‖ ^ 2 * ‖h‖ ^ 2 + (‖x - h‖ ^ 2 - ‖x‖ ^ 2) ^ 2) • x -
      ((‖x - h‖ ^ 2 - ‖x‖ ^ 2) * (‖x‖ ^ 2 + ‖x - h‖ ^ 2)) • h‖ ≤ 10 * radius ^ 3 * ‖h‖ ^ 2 := by
    have squares : |2 * ‖x‖ ^ 2 * ‖h‖ ^ 2 + (‖x - h‖ ^ 2 - ‖x‖ ^ 2) ^ 2| ≤ 6 * radius ^ 2 * ‖h‖ ^ 2 := by
      have doubled : (‖x - h‖ ^ 2 - ‖x‖ ^ 2) ^ 2 ≤ (2 * radius * ‖h‖) ^ 2 := sq_le_sq' (abs_le.mp change).1 (abs_le.mp change).2
      have inside : ‖x‖ ^ 2 * ‖h‖ ^ 2 ≤ radius ^ 2 * ‖h‖ ^ 2 := by gcongr
      rw [abs_of_nonneg (by positivity)]
      linarith
    have sums : |(‖x - h‖ ^ 2 - ‖x‖ ^ 2) * (‖x‖ ^ 2 + ‖x - h‖ ^ 2)| ≤ 2 * radius * ‖h‖ * (radius ^ 2 + radius ^ 2) := by
      rw [abs_mul, abs_of_nonneg (add_nonneg (sq_nonneg ‖x‖) (sq_nonneg ‖x - h‖))]
      gcongr
    have length : ‖(2 * ‖x‖ ^ 2 * ‖h‖ ^ 2 + (‖x - h‖ ^ 2 - ‖x‖ ^ 2) ^ 2) • x‖ ≤ 6 * radius ^ 2 * ‖h‖ ^ 2 * radius :=
      (scaled_bound x _ _ squares).trans (mul_le_mul_of_nonneg_left here (by positivity))
    linarith [norm_sub_le ((2 * ‖x‖ ^ 2 * ‖h‖ ^ 2 + (‖x - h‖ ^ 2 - ‖x‖ ^ 2) ^ 2) • x)
      (((‖x - h‖ ^ 2 - ‖x‖ ^ 2) * (‖x‖ ^ 2 + ‖x - h‖ ^ 2)) • h), scaled_bound h _ _ sums]
  have third : ‖‖h‖ ^ 2 • t + (2 * inner ℝ t h) • h‖ ≤ 3 * ‖t‖ * ‖h‖ ^ 2 := by
    have across : |2 * inner ℝ t h| ≤ 2 * (‖t‖ * ‖h‖) := by
      rw [abs_mul, abs_two]
      exact mul_le_mul_of_nonneg_left (abs_real_inner_le_norm t h) zero_le_two
    have length : ‖‖h‖ ^ 2 • t‖ = ‖h‖ ^ 2 * ‖t‖ := by rw [norm_smul, norm_pow, norm_norm]
    linarith [norm_add_le (‖h‖ ^ 2 • t) ((2 * inner ℝ t h) • h), scaled_bound h _ _ across]
  rw [image_remainder, norm_neg]
  refine norm_add₃_le.trans ?_
  rw [norm_smul, norm_smul, Real.norm_eq_abs, Real.norm_eq_abs]
  have radial := mul_le_mul_of_nonneg_left first (abs_nonneg k1)
  have higher := mul_le_mul_of_nonneg_left second (abs_nonneg k2)
  linarith

end Expansion

section Coordinates

variable (k1 k2 p1 p2 radius : ℝ)

-- The direction in which the tangential part shifts.
def tilt : Vec2 ℝ := ⟨p2, p1⟩

theorem tilt_bound : ‖(tilt p1 p2).point‖ ≤ |p1| + |p2| := by
  rw [← plane_norm]
  refine (Real.sqrt_le_left (by positivity)).mpr ?_
  change p2 * p2 + p1 * p1 ≤ _
  nlinarith [abs_mul_abs_self p1, abs_mul_abs_self p2, mul_nonneg (abs_nonneg p1) (abs_nonneg p2)]

theorem plane_norm_fourth (m : Vec2 ℝ) : ‖m.point‖ ^ 4 = m.normSq ^ 2 := by
  rw [plane_norm_squared]
  ring

theorem lens_image (m : Vec2 ℝ) :
    ((Distortion.radialTangential k1 k2 p1 p2).distort m).point = lensImage k1 k2 (tilt p1 p2).point m.point := by
  rw [lensImage, lensGain, plane_norm_fourth, ← plane_norm_squared, ← plane_dot]
  ext i
  fin_cases i <;>
    simp [Distortion.distort, Distortion.radialTangential, RadialTangential.distort, Vec2.point, Vec2.get, Vec2.normSq,
      Vec2.dot, tilt] <;>
    ring

theorem lens_slope (m h : Vec2 ℝ) :
    (((Distortion.radialTangential k1 k2 p1 p2).pointJacobian m).actInPlane h).point =
      lensSlope k1 k2 (tilt p1 p2).point m.point h.point := by
  rw [lensSlope, radialSlope, lensGain, plane_norm_fourth, ← plane_norm_squared, ← plane_dot, ← plane_dot, ← plane_dot, act_in_plane]
  ext i
  fin_cases i <;>
    simp [Distortion.pointJacobian, Distortion.radialTangential, RadialTangential.pointJacobian, Mat.planeRow, Mat.get,
      Vec2.of, Vec2.point, Vec2.get, Vec2.normSq, Vec2.dot, tilt] <;>
    ring

-- How far the derivative of the model is from the identity within a radius, at most.
def bend : ℝ := 3 * |k1| * radius ^ 2 + 5 * |k2| * radius ^ 4 + 9 * (|p1| + |p2|) * radius

theorem bend_parts (positive : 0 ≤ radius) :
    3 * |k1| * radius ^ 2 + 5 * |k2| * radius ^ 4 + 9 * ‖(tilt p1 p2).point‖ * radius ≤ bend k1 k2 p1 p2 radius := by
  have across := mul_le_mul_of_nonneg_right (tilt_bound p1 p2) positive
  rw [bend]
  linarith

theorem bend_shift (m : Vec2 ℝ) (inside : m.norm ≤ radius) :
    3 * ((Distortion.radialTangential k1 k2 p1 p2).distort m - m).norm ≤ bend k1 k2 p1 p2 radius * m.norm := by
  have positive := (plane_nonneg m).trans inside
  rw [plane_norm] at inside
  have shift := image_shift k1 k2 (tilt p1 p2).point m.point radius inside
  have parts := mul_le_mul_of_nonneg_right (bend_parts k1 k2 p1 p2 radius positive) (norm_nonneg m.point)
  have rest : 0 ≤ |k2| * radius ^ 4 * ‖m.point‖ := by positivity
  rw [plane_norm, plane_norm, plane_point_sub, lens_image]
  linarith

theorem bend_slope (m h : Vec2 ℝ) (inside : m.norm ≤ radius) :
    (((Distortion.radialTangential k1 k2 p1 p2).pointJacobian m).actInPlane h - h).norm ≤ bend k1 k2 p1 p2 radius * h.norm := by
  have positive := (plane_nonneg m).trans inside
  rw [plane_norm] at inside
  have shift := slope_shift k1 k2 (tilt p1 p2).point m.point h.point radius inside
  have parts := mul_le_mul_of_nonneg_right (bend_parts k1 k2 p1 p2 radius positive) (norm_nonneg h.point)
  have rest : 0 ≤ ‖(tilt p1 p2).point‖ * radius * ‖h.point‖ := by positivity
  rw [plane_norm, plane_norm, plane_point_sub, lens_slope]
  linarith

theorem bend_remainder (m n : Vec2 ℝ) (here : m.norm ≤ radius) (there : n.norm ≤ radius) :
    radius * ((Distortion.radialTangential k1 k2 p1 p2).distort m - (Distortion.radialTangential k1 k2 p1 p2).distort n -
      ((Distortion.radialTangential k1 k2 p1 p2).pointJacobian m).actInPlane (m - n)).norm ≤
        2 * bend k1 k2 p1 p2 radius * (m - n).norm ^ 2 := by
  have positive := (plane_nonneg m).trans here
  have back : m.point - (m - n).point = n.point := by rw [plane_point_sub, sub_sub_cancel]
  rw [plane_norm] at here there
  have missed := remainder_bound k1 k2 (tilt p1 p2).point m.point (m - n).point radius here (back ▸ there)
  have scaled := mul_le_mul_of_nonneg_left missed positive
  have parts := mul_le_mul_of_nonneg_right (bend_parts k1 k2 p1 p2 radius positive) (sq_nonneg ‖(m - n).point‖)
  have radial : 0 ≤ |k1| * radius ^ 2 * ‖(m - n).point‖ ^ 2 := by positivity
  have across : 0 ≤ ‖(tilt p1 p2).point‖ * radius * ‖(m - n).point‖ ^ 2 := by positivity
  rw [back] at scaled
  rw [plane_norm, plane_norm (m - n), plane_point_sub, plane_point_sub, lens_image, lens_image, lens_slope]
  linarith

end Coordinates

-- Within the radius the derivative is near the identity, and the point is well inside.
structure RadialTangential.MildAt (k1 k2 p1 p2 radius : ℝ) (n : Vec2 ℝ) : Prop where
  some : 0 < radius
  bounded : radius ≤ 7000
  inside : 7 * n.norm ≤ 6 * radius
  bend : bend k1 k2 p1 p2 radius ≤ 1 / 2

theorem mild_lens_tame (k1 k2 p1 p2 radius : ℝ) (n : Vec2 ℝ) (mild : RadialTangential.MildAt k1 k2 p1 p2 radius n) :
    (Distortion.radialTangential k1 k2 p1 p2).TameAt n (1 / 2) := by
  obtain ⟨some, bounded, inside, bend⟩ := mild
  have length := plane_nonneg n
  have here : n.norm ≤ radius := by linarith
  have shift := (bend_shift k1 k2 p1 p2 radius n here).trans (mul_le_mul_of_nonneg_right bend length)
  have slope := bend_slope k1 k2 p1 p2 radius
  have remainder := bend_remainder k1 k2 p1 p2 radius
  generalize Distortion.radialTangential k1 k2 p1 p2 = d at *
  have disc : ∀ m : Vec2 ℝ, (m - n).norm ≤ (d.distort n - n).norm → m.norm ≤ radius := by
    intro m near
    linarith [plane_triangle m n]
  have missed : ∀ m, (m - n).norm ≤ (d.distort n - n).norm →
      radius * (d.distort m - d.distort n - (d.pointJacobian m).actInPlane (m - n)).norm ≤ (m - n).norm ^ 2 := by
    intro m near
    linarith [remainder m n (disc m near) here, mul_le_mul_of_nonneg_right bend (sq_nonneg (m - n).norm)]
  refine near_identity_tame d n (by linarith) ?_ ?_ ?_
  · intro m v near
    exact (slope m v (disc m near)).trans (mul_le_mul_of_nonneg_right bend (plane_nonneg v))
  · intro m near
    refine le_of_mul_le_mul_left ((missed m near).trans ?_) some
    rw [sq]
    exact mul_le_mul_of_nonneg_right (by linarith) (plane_nonneg _)
  · intro m near
    have small : 7 * (d.distort n - n).norm ≤ radius := by linarith
    have scaled := mul_le_mul_of_nonneg_right small
      (plane_nonneg (d.distort m - d.distort n - (d.pointJacobian m).actInPlane (m - n)))
    linarith [missed m near, sq_nonneg (m - n).norm]

end LandmarkMap
