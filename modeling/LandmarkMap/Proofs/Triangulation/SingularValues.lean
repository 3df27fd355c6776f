import Mathlib.LinearAlgebra.Matrix.Charpoly.Basic
import LandmarkMap.Proofs.Geometry.Poses
import LandmarkMap.Proofs.Triangulation.LeastSquares

set_option autoImplicit false

namespace LandmarkMap

open Matrix Polynomial

section Values

theorem turned_charpoly (a o : Matrix (Fin 3) (Fin 3) ℝ) (orthogonal : oᵀ * o = 1) :
    (o * a * oᵀ).charpoly = a.charpoly := by
  rw [Matrix.mul_assoc, charpoly_mul_comm, Matrix.mul_assoc, orthogonal, Matrix.mul_one]

theorem diagonal_roots (v : Fin 3 → ℝ) (o : Matrix (Fin 3) (Fin 3) ℝ) (orthogonal : oᵀ * o = 1) :
    (o * diagonal v * oᵀ).charpoly.roots = Finset.univ.val.map v := by
  have factors : (diagonal v).charpoly = ((Finset.univ.val.map v).map fun b => X - C b).prod := by
    rw [charpoly_diagonal, Multiset.map_map]
    rfl
  rw [turned_charpoly _ o orthogonal, factors, roots_multiset_prod_X_sub_C]

-- The squares of the singular values are the roots of a polynomial that does not know of the
-- decomposition.
theorem squared_values (d : Svd ℝ) (a : Matrix (Fin 3) (Fin 3) ℝ) (exact : d.Decomposes a) :
    (aᵀ * a).charpoly.roots = Finset.univ.val.map fun i => d.values.get i * d.values.get i := by
  set r := d.right.toMatrix with right
  set v := diagonal d.values.get with values
  have gram : aᵀ * a = r * diagonal (fun i => d.values.get i * d.values.get i) * rᵀ := by
    rw [← exact.product, transpose_mul, transpose_mul, transpose_transpose, diagonal_transpose, ← diagonal_mul_diagonal]
    calc r * (v * d.left.toMatrixᵀ) * (d.left.toMatrix * v * rᵀ)
        = r * (v * (d.left.toMatrixᵀ * d.left.toMatrix) * v) * rᵀ := by simp only [Matrix.mul_assoc]
      _ = r * (v * v) * rᵀ := by rw [exact.left, Matrix.mul_one]
  rw [gram, diagonal_roots _ r exact.right]

theorem turned_gram (a o : Matrix (Fin 3) (Fin 3) ℝ) (orthogonal : oᵀ * o = 1) :
    ((o * a * oᵀ)ᵀ * (o * a * oᵀ)).charpoly = (aᵀ * a).charpoly := by
  have gram : (o * a * oᵀ)ᵀ * (o * a * oᵀ) = o * (aᵀ * a) * oᵀ := by
    rw [transpose_mul, transpose_mul, transpose_transpose]
    calc o * (aᵀ * oᵀ) * (o * a * oᵀ) = o * (aᵀ * (oᵀ * o) * a) * oᵀ := by simp only [Matrix.mul_assoc]
      _ = o * (aᵀ * a) * oᵀ := by rw [orthogonal, Matrix.mul_one]
  rw [gram, turned_charpoly _ o orthogonal]

-- Neither another decomposition nor a rotation on both sides changes more than the order.
theorem values_turned (d e : Svd ℝ) (a o : Matrix (Fin 3) (Fin 3) ℝ) (orthogonal : oᵀ * o = 1) (first : d.Decomposes a)
    (second : e.Decomposes (o * a * oᵀ)) : e.values.toList.Perm d.values.toList := by
  have listed : ∀ f : Svd ℝ, ∀ b, f.Decomposes b →
      (f.values.toList : Multiset ℝ) = (bᵀ * b).charpoly.roots.map Real.sqrt := by
    intro f b exact
    have each : (fun i => Real.sqrt (f.values.get i * f.values.get i)) = f.values.get := by
      funext i
      exact Real.sqrt_mul_self (exact.values i)
    rw [squared_values f b exact, Multiset.map_map, Function.comp_def, each, Fin.univ_val_map]
    rfl
  refine Multiset.coe_eq_coe.mp ?_
  rw [listed e _ second, listed d a first, turned_gram a o orthogonal]

theorem values_unique (d e : Svd ℝ) (a : Matrix (Fin 3) (Fin 3) ℝ) (first : d.Decomposes a) (second : e.Decomposes a) :
    e.values.toList.Perm d.values.toList := by
  refine values_turned d e a 1 (by simp) first ?_
  rwa [Matrix.one_mul, transpose_one, Matrix.mul_one]

theorem values_listed (v : Vec3 ℝ) (x : ℝ) : x ∈ v.toList ↔ ∃ i, v.get i = x := by
  simp [Vec3.toList, Fin.exists_fin_succ, Vec3.get, eq_comm]

theorem largest_bound (d : Svd ℝ) (bound : ℝ) : d.largest ≤ bound ↔ ∀ v ∈ d.values.toList, v ≤ bound := by
  simp [Svd.largest, Vec3.toList, and_assoc]

theorem largest_listed (d : Svd ℝ) : d.largest ∈ d.values.toList := by
  have outer := max_choice (max d.values.x d.values.y) d.values.z
  have inner := max_choice d.values.x d.values.y
  change max (max d.values.x d.values.y) d.values.z ∈ [d.values.x, d.values.y, d.values.z]
  rcases outer with first | last
  · rw [first]
    rcases inner with x | y
    · simp [x]
    · simp [y]
  · simp [last]

theorem largest_perm (d e : Svd ℝ) (same : e.values.toList.Perm d.values.toList) : e.largest = d.largest := by
  refine le_antisymm ((largest_bound e _).mpr fun v member => ?_) ((largest_bound d _).mpr fun v member => ?_)
  · exact (largest_bound d _).mp le_rfl v (same.mem_iff.mp member)
  · exact (largest_bound e _).mp le_rfl v (same.mem_iff.mpr member)

theorem rank_perm (d e : Svd ℝ) (same : e.values.toList.Perm d.values.toList) (threshold : ℝ) :
    e.rank threshold = d.rank threshold := same.countP_eq _

end Values

end LandmarkMap
