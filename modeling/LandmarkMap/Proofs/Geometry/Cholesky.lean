import Mathlib.LinearAlgebra.Matrix.Block
import Mathlib.LinearAlgebra.Matrix.PosDef
import Mathlib.Algebra.Order.Star.Real
import LandmarkMap.Geometry.Cholesky
import LandmarkMap.Proofs.Exact.Matrices

set_option autoImplicit false

namespace LandmarkMap

open Matrix

section Loops

variable {σ : Type}

theorem fold_invariant (n : Nat) (step : σ → Fin n → σ) (Holds : Nat → σ → Prop) (start : σ)
    (first : Holds 0 start) (keep : ∀ (j : Fin n) (s : σ), Holds j s → Holds (j + 1) (step s j)) :
    Holds n (Fin.foldl n step start) := by
  induction n with
  | zero => simpa using first
  | succ n ih =>
      rw [Fin.foldl_succ_last]
      exact keep (Fin.last n) _ (ih (fun s j => step s j.castSucc) fun j s => keep j.castSucc s)

theorem fold_back_invariant (n : Nat) (step : Fin n → σ → σ) (Holds : Nat → σ → Prop) (start : σ)
    (last : Holds n start) (keep : ∀ (j : Fin n) (s : σ), Holds (j + 1) s → Holds j (step j s)) :
    Holds 0 (Fin.foldr n step start) := by
  induction n generalizing start with
  | zero => simpa using last
  | succ n ih =>
      rw [Fin.foldr_succ_last]
      exact ih (fun j s => step j.castSucc s) _ (keep (Fin.last n) start last) fun j s => keep j.castSucc s

-- Two runs side by side.
theorem fold_related (n : Nat) (step : σ → Fin n → σ) (Related : σ → σ → Prop) (s t : σ) (start : Related s t)
    (keep : ∀ j s t, Related s t → Related (step s j) (step t j)) :
    Related (Fin.foldl n step s) (Fin.foldl n step t) := by
  induction n generalizing s t with
  | zero => simpa using start
  | succ n ih =>
      rw [Fin.foldl_succ, Fin.foldl_succ]
      exact ih (fun s j => step s j.succ) _ _ (keep 0 s t start) fun j => keep j.succ

theorem fold_total (n : Nat) (step : ℝ → Fin n → ℝ) (f : Fin n → ℝ) (start : ℝ)
    (adds : ∀ total i, step total i = total + f i) : Fin.foldl n step start = start + ∑ i, f i := by
  induction n with
  | zero => simp
  | succ n ih =>
      rw [Fin.foldl_succ_last, adds, ih _ (fun i => f i.castSucc) fun total i => adds total i.castSucc,
        Fin.sum_univ_castSucc, add_assoc]

end Loops

variable {n : Nat}

structure IsCholesky (a l : Matrix (Fin n) (Fin n) ℝ) : Prop where
  lower : l.IsLowerTriangular
  diagonal : ∀ i, 0 < l i i
  product : l * lᵀ = a

theorem lower_unit (l : Matrix (Fin n) (Fin n) ℝ) (lower : l.IsLowerTriangular) (diagonal : ∀ i, 0 < l i i) :
    IsUnit l := by
  rw [Matrix.isUnit_iff_isUnit_det, Matrix.det_of_isLowerTriangular l lower]
  exact (Finset.prod_pos fun i _ => diagonal i).ne'.isUnit

theorem IsCholesky.posDef (a l : Matrix (Fin n) (Fin n) ℝ) (factor : IsCholesky a l) : a.PosDef := by
  have unit := lower_unit l factor.lower factor.diagonal
  have conjugate := (Matrix.IsUnit.posDef_star_right_conjugate_iff (x := 1) unit).mpr Matrix.PosDef.one
  rw [Matrix.mul_one, star_eq_conjTranspose, conjTranspose_eq_transpose_of_trivial, factor.product] at conjugate
  exact conjugate

-- The columns of the factor to the left of `j`, with zeros above the diagonal and from `j` on.
def leftColumns (b : Matrix (Fin n) (Fin n) ℝ) (j : Nat) : Matrix (Fin n) (Fin n) ℝ :=
  Matrix.of fun i k => if k.val < j ∧ k ≤ i then b i k else 0

-- What is left of `a` once the columns to the left of `j` are taken off.
def remainder (a b : Matrix (Fin n) (Fin n) ℝ) (j : Nat) : Matrix (Fin n) (Fin n) ℝ :=
  a - leftColumns b j * (leftColumns b j)ᵀ

-- Factored as far as the columns to the left of `j`; from there on the matrix is untouched.
structure Factored (a : Matrix (Fin n) (Fin n) ℝ) (j : Nat) (b : Matrix (Fin n) (Fin n) ℝ) : Prop where
  left : ∀ i c : Fin n, c.val < j → c ≤ i → remainder a b j i c = 0
  diagonal : ∀ c : Fin n, c.val < j → 0 < b c c
  untouched : ∀ i c : Fin n, j ≤ c.val → b i c = a i c

def leading (n j : Nat) : Matrix (Fin n) (Fin n) ℝ := Matrix.diagonal fun k => if k.val < j then 1 else 0

theorem left_columns_leading (b : Matrix (Fin n) (Fin n) ℝ) (j : Nat) : leftColumns b j * leading n j = leftColumns b j := by
  ext i k
  by_cases left : k.val < j <;> simp [leading, leftColumns, left]

theorem leading_idempotent (n j : Nat) : leading n j * leading n j = leading n j := by
  simp [leading]

theorem remainder_symmetric (a b : Matrix (Fin n) (Fin n) ℝ) (j : Nat) (symmetric : aᵀ = a) :
    (remainder a b j)ᵀ = remainder a b j := by
  rw [remainder, transpose_sub, transpose_mul, transpose_transpose, symmetric]

theorem remainder_leading (a b : Matrix (Fin n) (Fin n) ℝ) (j : Nat) (symmetric : aᵀ = a) (factored : Factored a j b) :
    remainder a b j * leading n j = 0 := by
  ext i k
  rw [leading, mul_diagonal]
  by_cases left : k.val < j
  · rw [if_pos left, mul_one, Matrix.zero_apply]
    rcases le_total k i with below | above
    · exact factored.left i k left below
    · rw [← remainder_symmetric a b j symmetric, transpose_apply]
      exact factored.left k i (lt_of_le_of_lt above left) above
  · rw [if_neg left, mul_zero, Matrix.zero_apply]

theorem filled_unit (a b : Matrix (Fin n) (Fin n) ℝ) (j : Nat) (factored : Factored a j b) :
    IsUnit (leftColumns b j + (1 - leading n j)) := by
  apply lower_unit
  · intro i k above
    have beyond : i < k := above
    have off : ¬ (k.val < j ∧ k ≤ i) := fun both => absurd both.2 (not_le.mpr beyond)
    simp [leftColumns, leading, off, beyond.ne]
  · intro i
    rw [Matrix.add_apply, Matrix.sub_apply, one_apply_eq, leading, diagonal_apply_eq, leftColumns, Matrix.of_apply]
    by_cases before : i.val < j
    · simpa [before] using factored.diagonal i before
    · simp [before]

-- With the known columns filled up by the identity, the matrix is congruent to what remains of it.
theorem remainder_congruent (a b : Matrix (Fin n) (Fin n) ℝ) (j : Nat) (symmetric : aᵀ = a)
    (factored : Factored a j b) :
    (leftColumns b j + (1 - leading n j)) * (leading n j + remainder a b j) *
      (leftColumns b j + (1 - leading n j))ᵀ = a := by
  have right : remainder a b j * leading n j = 0 := remainder_leading a b j symmetric factored
  have known : leftColumns b j * leading n j = leftColumns b j := left_columns_leading b j
  have twice : leading n j * leading n j = leading n j := leading_idempotent n j
  have projected : (leading n j)ᵀ = leading n j := diagonal_transpose _
  have left : leading n j * remainder a b j = 0 := by
    rw [← remainder_symmetric a b j symmetric, ← projected, ← transpose_mul, right, transpose_zero]
  have past : leftColumns b j * remainder a b j = 0 := by
    rw [← known, Matrix.mul_assoc, left, Matrix.mul_zero]
  have pastBack : remainder a b j * (leftColumns b j)ᵀ = 0 := by
    rw [← known, transpose_mul, projected, ← Matrix.mul_assoc, right, Matrix.zero_mul]
  calc (leftColumns b j + (1 - leading n j)) * (leading n j + remainder a b j) *
        (leftColumns b j + (1 - leading n j))ᵀ
      = (leftColumns b j + remainder a b j) * (leftColumns b j + (1 - leading n j))ᵀ := by
        congr 1
        simp only [add_mul, sub_mul, mul_add, one_mul, known, past, twice, left]
        abel
    _ = (leftColumns b j + remainder a b j) * ((leftColumns b j)ᵀ + (1 - leading n j)) := by
        rw [transpose_add, transpose_sub, transpose_one, projected]
    _ = leftColumns b j * (leftColumns b j)ᵀ + remainder a b j := by
        simp only [add_mul, mul_add, mul_sub, mul_one, known, pastBack, right]
        abel
    _ = a := add_sub_cancel _ _

theorem remainder_pivot (a b : Matrix (Fin n) (Fin n) ℝ) (j : Fin n) (factored : Factored a j b)
    (definite : a.PosDef) : 0 < remainder a b j j j := by
  have congruent := remainder_congruent a b j definite.isHermitian factored
  have unit := filled_unit a b j factored
  rw [← conjTranspose_eq_transpose_of_trivial, ← star_eq_conjTranspose] at congruent
  rw [← congruent, Matrix.IsUnit.posDef_star_right_conjugate_iff unit] at definite
  have pivot := definite.diag_pos (i := j)
  rwa [Matrix.add_apply, leading, diagonal_apply_eq, if_neg (lt_irrefl _), zero_add] at pivot

theorem left_columns_known (b : Matrix (Fin n) (Fin n) ℝ) (j : Nat) (i k : Fin n) (before : k.val < j) (below : k ≤ i) :
    leftColumns b j i k = b i k := if_pos ⟨before, below⟩

theorem left_columns_unknown (b : Matrix (Fin n) (Fin n) ℝ) (j : Nat) (i k : Fin n) (later : ¬ k.val < j) :
    leftColumns b j i k = 0 := if_neg fun both => later both.1

theorem left_columns_next (b c : Matrix (Fin n) (Fin n) ℝ) (j : Fin n) (same : ∀ i k : Fin n, k < j → c i k = b i k)
    (i k : Fin n) :
    leftColumns c (j + 1) i k = leftColumns b j i k + if k = j then (if j ≤ i then c i j else 0) else 0 := by
  rcases lt_trichotomy k j with before | rfl | later
  · simp [leftColumns, before, before.le, before.ne, same i k before]
  · simp [leftColumns]
  · have never : ¬ k.val < j.val + 1 := Nat.not_lt.mpr later
    have unknown : ¬ k.val < j.val := Nat.not_lt.mpr later.le
    rw [left_columns_unknown _ _ _ _ never, left_columns_unknown _ _ _ _ unknown, if_neg later.ne', add_zero]

-- Each further column takes its products off the remainder.
theorem remainder_next (a b c : Matrix (Fin n) (Fin n) ℝ) (j : Fin n) (same : ∀ i k : Fin n, k < j → c i k = b i k)
    (i m : Fin n) :
    remainder a c (j + 1) i m =
      remainder a b j i m - (if j ≤ i then c i j else 0) * (if j ≤ m then c m j else 0) := by
  have unknown : ∀ i : Fin n, leftColumns b j i j = 0 := fun i => left_columns_unknown b j i j (lt_irrefl _)
  have products : ∀ k : Fin n, leftColumns c (j + 1) i k * leftColumns c (j + 1) m k =
      leftColumns b j i k * leftColumns b j m k +
        if k = j then (if j ≤ i then c i j else 0) * (if j ≤ m then c m j else 0) else 0 := by
    intro k
    rw [left_columns_next b c j same, left_columns_next b c j same]
    by_cases here : k = j
    · subst here
      simp [unknown]
    · simp [here]
  simp only [remainder, Matrix.sub_apply, Matrix.mul_apply, transpose_apply, products, Finset.sum_add_distrib,
    Finset.sum_ite_eq', Finset.mem_univ, if_true]
  ring

theorem reduced_entry (a : Matrix (Fin n) (Fin n) ℝ) (b : Mat n n ℝ) (j i c : Fin n)
    (factored : Factored a j b.toMatrix) :
    (b.reduceColumn j).get i c = if c = j ∧ j ≤ i then remainder a b.toMatrix j i j else b.get i c := by
  rw [Mat.reduceColumn, Mat.get_of]
  by_cases here : c = j ∧ j ≤ i
  · rw [if_pos here, if_pos here]
    rw [fold_total n _ (fun k => -(leftColumns b.toMatrix j i k * leftColumns b.toMatrix j j k)) _ ?_]
    · have start : b.get i j = a i j := factored.untouched i j le_rfl
      rw [start, remainder, Matrix.sub_apply, Matrix.mul_apply, Finset.sum_neg_distrib]
      rfl
    · intro total k
      by_cases before : k < j
      · rw [if_pos before, left_columns_known _ _ i k before (before.le.trans here.2),
          left_columns_known _ _ j k before before.le, matrix_entry, matrix_entry]
        ring
      · rw [if_neg before, left_columns_unknown _ _ i k before, left_columns_unknown _ _ j k before]
        ring
  · rw [if_neg here, if_neg here]

theorem pivot_entry (a : Matrix (Fin n) (Fin n) ℝ) (b : Mat n n ℝ) (j : Fin n) (factored : Factored a j b.toMatrix) :
    (b.reduceColumn j).get j j = remainder a b.toMatrix j j j := by
  rw [reduced_entry a b j j j factored, if_pos ⟨rfl, le_rfl⟩]

theorem step_factored (a : Matrix (Fin n) (Fin n) ℝ) (b : Mat n n ℝ) (j : Fin n)
    (factored : Factored a j b.toMatrix) (positive : 0 < remainder a b.toMatrix j j j) :
    ∃ c, (b.reduceColumn j).scaleColumn? j = some c ∧ Factored a (j + 1) c.toMatrix := by
  rw [Mat.scaleColumn?, pivot_entry a b j factored, if_pos positive]
  refine ⟨_, rfl, ?_⟩
  set root := Scalar.sqrt (remainder a b.toMatrix j j j) with rooted
  have square : root * root = remainder a b.toMatrix j j j := Real.mul_self_sqrt positive.le
  have above : 0 < root := Real.sqrt_pos.mpr positive
  set c : Matrix (Fin n) (Fin n) ℝ := Mat.toMatrix (Mat.of _) with scaled
  have other : ∀ i k : Fin n, k ≠ j → c i k = b.get i k := by
    intro i k apart
    simp [scaled, apart, reduced_entry a b j i k factored]
  have top : c j j = root := by simp [scaled]
  have below : ∀ i : Fin n, j ≤ i → c i j * root = remainder a b.toMatrix j i j := by
    intro i under
    rcases under.eq_or_lt with rfl | beyond
    · rw [top, square]
    · simp [scaled, beyond, reduced_entry a b j i j factored, beyond.le, above.ne']
  refine ⟨?_, ?_, ?_⟩
  · intro i k early under
    rw [remainder_next a b.toMatrix c j (fun i k before => other i k before.ne)]
    rcases (Nat.lt_succ_iff.mp early).eq_or_lt with here | before
    · obtain rfl : k = j := Fin.ext here
      rw [if_pos under, if_pos le_rfl, top, below i under, sub_self]
    · rw [if_neg (not_le.mpr (show k < j from before)), mul_zero, sub_zero]
      exact factored.left i k before under
  · intro k early
    rcases (Nat.lt_succ_iff.mp early).eq_or_lt with here | before
    · obtain rfl : k = j := Fin.ext here
      rw [top]
      exact above
    · rw [other k k (Fin.ne_of_lt before)]
      exact factored.diagonal k before
  · intro i k late
    have beyond : j < k := late
    rw [other i k beyond.ne']
    exact factored.untouched i k beyond.le

theorem step_stops (a : Matrix (Fin n) (Fin n) ℝ) (b : Mat n n ℝ) (j : Fin n)
    (factored : Factored a j b.toMatrix) (stuck : ¬ 0 < remainder a b.toMatrix j j j) :
    (b.reduceColumn j).scaleColumn? j = none := by
  rw [Mat.scaleColumn?, pivot_entry a b j factored, if_neg stuck]

-- The state of the loop: factored so far, or stopped by a pivot that only an indefinite matrix has.
def FactoredOrIndefinite (a : Matrix (Fin n) (Fin n) ℝ) (j : Nat) : Option (Mat n n ℝ) → Prop
  | some b => Factored a j b.toMatrix
  | none => ¬ a.PosDef

theorem loop_factors (a : Mat n n ℝ) :
    FactoredOrIndefinite a.toMatrix n
      (Fin.foldl n (fun state j => state.bind fun b => (b.reduceColumn j).scaleColumn? j) (some a)) := by
  apply fold_invariant
  · exact ⟨fun _ _ early => absurd early (Nat.not_lt_zero _), fun _ early => absurd early (Nat.not_lt_zero _),
      fun _ _ _ => rfl⟩
  · intro j state holds
    cases state with
    | none => exact holds
    | some b =>
        change FactoredOrIndefinite _ _ ((b.reduceColumn j).scaleColumn? j)
        by_cases positive : 0 < remainder a.toMatrix b.toMatrix j j j
        · obtain ⟨c, done, next⟩ := step_factored a.toMatrix b j holds positive
          rw [done]
          exact next
        · rw [step_stops a.toMatrix b j holds positive]
          exact fun definite => positive (remainder_pivot a.toMatrix b.toMatrix j holds definite)

theorem factored_cholesky (a : Matrix (Fin n) (Fin n) ℝ) (b : Matrix (Fin n) (Fin n) ℝ) (symmetric : aᵀ = a)
    (factored : Factored a n b) : IsCholesky a (leftColumns b n) := by
  refine ⟨fun i k above => if_neg fun both => ?_, fun i => ?_, ?_⟩
  · exact absurd both.2 (not_le.mpr (show i < k from above))
  · rw [left_columns_known b n i i i.isLt le_rfl]
    exact factored.diagonal i i.isLt
  · have all : leading n n = 1 := by simp [leading]
    have nothing := remainder_leading a b n symmetric factored
    rw [all, mul_one] at nothing
    exact (sub_eq_zero.mp nothing).symm

theorem cholesky_factor (a l : Mat n n ℝ) (symmetric : a.toMatrixᵀ = a.toMatrix) (found : a.cholesky? = some l) :
    IsCholesky a.toMatrix l.toMatrix := by
  obtain ⟨b, ran, rfl⟩ := Option.map_eq_some_iff.mp found
  have factored := loop_factors a
  rw [ran] at factored
  have same : (Mat.of fun i j => if j ≤ i then b.get i j else 0).toMatrix = leftColumns b.toMatrix n := by
    ext i k
    simp [leftColumns]
  rw [same]
  exact factored_cholesky a.toMatrix b.toMatrix symmetric factored

theorem cholesky_found (a : Mat n n ℝ) (definite : a.toMatrix.PosDef) : ∃ l, a.cholesky? = some l := by
  cases found : a.cholesky? with
  | some l => exact ⟨l, rfl⟩
  | none =>
      have factored := loop_factors a
      rw [Option.map_eq_none_iff.mp found] at factored
      exact absurd definite factored

theorem vector_of_get {α : Type} (f : Fin n → α) : (Vector.ofFn f).get = f := by
  funext i
  exact Vector.getElem_ofFn i.isLt

theorem vector_set_get {α : Type} (x : Vector α n) (i : Fin n) (value : α) :
    (x.set i value i.isLt).get = Function.update x.get i value := by
  funext k
  by_cases here : k = i
  · subst here
    rw [Function.update_self]
    exact Vector.getElem_set_self k.isLt
  · rw [Function.update_of_ne here]
    exact Vector.getElem_set_ne i.isLt k.isLt fun same => here (Fin.ext same.symm)

theorem row_kept (row x : Fin n → ℝ) (i : Fin n) (value : ℝ) (unread : row i = 0) :
    row ⬝ᵥ Function.update x i value = row ⬝ᵥ x := by
  apply Finset.sum_congr rfl
  intro k _
  by_cases here : k = i
  · rw [here, unread, zero_mul, zero_mul]
  · rw [Function.update_of_ne here]

-- One row of a triangular system, solved for the coordinate on the diagonal.
theorem row_solved (row x : Fin n → ℝ) (i : Fin n) (Known : Fin n → Prop) [DecidablePred Known] (value : ℝ)
    (diagonal : row i ≠ 0) (unknown : ¬ Known i) (triangular : ∀ k, k ≠ i → ¬ Known k → row k = 0) :
    row ⬝ᵥ Function.update x i ((value - ∑ k, if Known k then row k * x k else 0) / row i) = value := by
  have split : ∀ k, row k * Function.update x i ((value - ∑ k, if Known k then row k * x k else 0) / row i) k =
      (if Known k then row k * x k else 0) +
        if k = i then value - ∑ k, if Known k then row k * x k else 0 else 0 := by
    intro k
    by_cases here : k = i
    · subst here
      rw [Function.update_self, if_neg unknown, if_pos rfl, mul_div_cancel₀ _ diagonal, zero_add]
    · rw [Function.update_of_ne here, if_neg here, add_zero]
      by_cases known : Known k
      · rw [if_pos known]
      · rw [if_neg known, triangular k here known, zero_mul]
  rw [dotProduct, Finset.sum_congr rfl fun k _ => split k, Finset.sum_add_distrib, Finset.sum_ite_eq',
    if_pos (Finset.mem_univ i)]
  ring

theorem solve_lower (l : Mat n n ℝ) (lower : l.toMatrix.IsLowerTriangular) (diagonal : ∀ i, 0 < l.toMatrix i i)
    (b : Vector ℝ n) : l.toMatrix *ᵥ (l.solveLower b).get = b.get := by
  have solved := fold_invariant n
    (fun x i => x.set i ((Fin.foldl n (fun s k => if k < i then s - l i k * x.get k else s) (b.get i)) / l i i) i.isLt)
    (fun i x => ∀ r : Fin n, r.val < i → l.toMatrix r ⬝ᵥ x.get = b.get r) b
    (fun r early => absurd early (Nat.not_lt_zero _)) ?_
  · funext r
    exact solved r r.isLt
  · intro i x holds r early
    have total := fold_total n (fun s k => if k < i then s - l i k * x.get k else s)
      (fun k => -(if k < i then l.toMatrix i k * x.get k else 0)) (b.get i) fun s k => by
        by_cases before : k < i
        · rw [if_pos before, if_pos before]
          exact sub_eq_add_neg _ _
        · rw [if_neg before, if_neg before, neg_zero, add_zero]
    rw [vector_set_get, total, Finset.sum_neg_distrib, ← sub_eq_add_neg]
    rcases (Nat.lt_succ_iff.mp early).eq_or_lt with here | before
    · obtain rfl : r = i := Fin.ext here
      exact row_solved (l.toMatrix r) x.get r (· < r) (b.get r) (diagonal r).ne' (lt_irrefl r)
        fun k apart later => lower ((not_lt.mp later).lt_of_ne' apart)
    · have unread : l.toMatrix r i = 0 := lower (show r < i from before)
      rw [row_kept _ _ _ _ unread]
      exact holds r before

theorem solve_lower_transpose (l : Mat n n ℝ) (lower : l.toMatrix.IsLowerTriangular)
    (diagonal : ∀ i, 0 < l.toMatrix i i) (b : Vector ℝ n) :
    l.toMatrixᵀ *ᵥ (l.solveLowerTranspose b).get = b.get := by
  have solved := fold_back_invariant n
    (fun i x => x.set i ((b.get i - Fin.foldl n (fun s k => if i < k then s + l k i * x.get k else s) 0) / l i i) i.isLt)
    (fun i x => ∀ r : Fin n, i ≤ r.val → l.toMatrixᵀ r ⬝ᵥ x.get = b.get r) b
    (fun r late => absurd r.isLt (Nat.not_lt.mpr late)) ?_
  · funext r
    exact solved r (Nat.zero_le r)
  · intro i x holds r late
    have total := fold_total n (fun s k => if i < k then s + l k i * x.get k else s)
      (fun k => if i < k then l.toMatrixᵀ i k * x.get k else 0) 0 fun s k => by
        by_cases after : i < k
        · rw [if_pos after, if_pos after]
          rfl
        · rw [if_neg after, if_neg after, add_zero]
    rw [vector_set_get, total, zero_add]
    rcases late.eq_or_lt with here | after
    · obtain rfl : i = r := Fin.ext here
      exact row_solved (l.toMatrixᵀ i) x.get i (i < ·) (b.get i) (diagonal i).ne' (lt_irrefl i)
        fun k apart earlier => lower ((not_lt.mp earlier).lt_of_ne apart)
    · have unread : l.toMatrixᵀ r i = 0 := lower (show i < r from after)
      rw [row_kept _ _ _ _ unread]
      exact holds r after

theorem inverse_from_factor (a : Matrix (Fin n) (Fin n) ℝ) (l : Mat n n ℝ) (factor : IsCholesky a l.toMatrix) :
    l.inverseFromCholesky.toMatrix = a⁻¹ := by
  refine (Matrix.inv_eq_right_inv ?_).symm
  ext i j
  let unit : Vector ℝ n := Vector.ofFn fun i => if i = j then 1 else 0
  have column : ∀ k, l.inverseFromCholesky.toMatrix k j = (l.solveLowerTranspose (l.solveLower unit)).get k := by
    intro k
    rw [Mat.inverseFromCholesky, matrix_of, Matrix.of_apply, vector_of_get]
  have solved : a *ᵥ (l.solveLowerTranspose (l.solveLower unit)).get = unit.get := by
    rw [← factor.product, ← mulVec_mulVec, solve_lower_transpose l factor.lower factor.diagonal,
      solve_lower l factor.lower factor.diagonal]
  calc (a * l.inverseFromCholesky.toMatrix) i j
      = (a *ᵥ (l.solveLowerTranspose (l.solveLower unit)).get) i := by
        rw [Matrix.mul_apply, Finset.sum_congr rfl fun k _ => congrArg (a i k * ·) (column k)]
        rfl
    _ = (1 : Matrix (Fin n) (Fin n) ℝ) i j := by
        rw [solved, vector_of_get, one_apply]

end LandmarkMap
