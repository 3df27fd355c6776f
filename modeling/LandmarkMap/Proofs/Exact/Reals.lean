import Mathlib.Analysis.SpecialFunctions.Complex.Arg
import Mathlib.Analysis.SpecialFunctions.Trigonometric.Arctan
import LandmarkMap.Scalar

set_option autoImplicit false

namespace LandmarkMap

-- That a numeral is two or more is read off the numeral, so that two definitions that write it agree on the
-- proof whatever stands between them.

@[reducible] def twoOrMore : Nat → Bool
  | 0 | 1 => false
  | _ + 2 => true

instance fact_true : Fact (true = true) := ⟨rfl⟩

instance numeral_large {n : Nat} [large : Fact (twoOrMore n = true)] : n.AtLeastTwo where
  prop := match n, large.out with
    | _ + 2, _ => Nat.le_add_left 2 _

-- Exact arithmetic: every scalar is a number, none is infinite, and between any two there is a third.
noncomputable instance Scalar.real : Scalar ℝ where
  decLt := Real.decidableLT
  decLe := Real.decidableLE
  beq a b := decide (a = b)
  ofNat n := n
  ofInt n := n
  toInt64 x := Int64.ofIntClamp (if 0 ≤ x then ⌊x⌋ else ⌈x⌉)
  sqrt := Real.sqrt
  sin := Real.sin
  cos := Real.cos
  tan := Real.tan
  atan := Real.arctan
  acos := Real.arccos
  atan2 y x := Complex.arg ⟨x, y⟩
  abs x := |x|
  max a b := Max.max a b
  isFinite _ := true
  totalLe a b := decide (a ≤ b)
  pi := Real.pi
  epsilon := 0

@[simp] theorem real_sqrt (x : ℝ) : Scalar.sqrt x = Real.sqrt x := rfl

@[simp] theorem real_sin (x : ℝ) : Scalar.sin x = Real.sin x := rfl

@[simp] theorem real_cos (x : ℝ) : Scalar.cos x = Real.cos x := rfl

@[simp] theorem real_tan (x : ℝ) : Scalar.tan x = Real.tan x := rfl

@[simp] theorem real_atan (x : ℝ) : Scalar.atan x = Real.arctan x := rfl

@[simp] theorem real_abs (x : ℝ) : Scalar.abs x = |x| := rfl

@[simp] theorem real_max (a b : ℝ) : Scalar.max a b = Max.max a b := rfl

@[simp] theorem real_finite (x : ℝ) : Scalar.isFinite x = true := rfl

@[simp] theorem real_epsilon : (Scalar.epsilon : ℝ) = 0 := rfl

@[simp] theorem real_half : (0.5 : ℝ) = 1 / 2 := by norm_num

@[simp] theorem real_two : (2.0 : ℝ) = 2 := by norm_num

@[simp] theorem real_four : (4.0 : ℝ) = 4 := by norm_num

@[simp] theorem real_six : (6.0 : ℝ) = 6 := by norm_num

theorem sum_fin (n : Nat) (f : Fin n → ℝ) : sumFin n f = ∑ i, f i := by
  unfold sumFin
  induction n with
  | zero => simp
  | succ n ih => rw [Fin.foldl_succ_last, ih, Fin.sum_univ_castSucc]

end LandmarkMap
