import Mathlib.Data.List.GetD
import LandmarkMap.Map.Survey
import LandmarkMap.Proofs.Triangulation.SingularValues

set_option autoImplicit false

namespace LandmarkMap

open Matrix

section Eigenvalues

-- Orthonormal eigenvectors, each in the column of its eigenvalue.
structure Eigen.Decomposes (e : Eigen ℝ) (a : Matrix (Fin 3) (Fin 3) ℝ) : Prop where
  orthonormal : e.vectors.toMatrixᵀ * e.vectors.toMatrix = 1
  product : e.vectors.toMatrix * diagonal e.values.get * e.vectors.toMatrixᵀ = a

-- Nothing is lost in the decomposition of the matrices that a covariance can be. The order of the
-- eigenvalues is not known.
def ExactEigen [Spectral ℝ] : Prop := ∀ a : Mat 3 3 ℝ, a.toMatrix.PosSemidef → (Spectral.eigen a).Decomposes a.toMatrix

theorem eigen_spectral_decomposes : @ExactEigen eigenSpectral := by
  intro a definite
  have chosen : eigenSvdOf a = eigenSvd a definite := dif_pos definite
  have exact := eigen_svd_exact a definite
  change Eigen.Decomposes ⟨(eigenSvdOf a).values, (eigenSvdOf a).left⟩ a.toMatrix
  rw [chosen]
  exact ⟨exact.left, exact.product⟩

-- One permutation for the values and for the columns.
theorem ascending_permutes (e : Eigen ℝ) :
    ∃ order : Equiv.Perm (Fin 3), e.ascending.values.get = e.values.get ∘ order ∧
      e.ascending.vectors.toMatrix = e.vectors.toMatrix.submatrix id order ∧
      ∀ i j, i < j → e.values.get (order i) ≤ e.values.get (order j) := by
  let listed := (List.finRange 3).mergeSort fun i j => Scalar.totalLe (e.values.get i) (e.values.get j)
  have same : listed.Perm (List.finRange 3) := List.mergeSort_perm _ _
  have size : listed.length = 3 := same.length_eq
  have sorted : listed.Pairwise fun i j => e.values.get i ≤ e.values.get j :=
    (List.pairwise_mergeSort
      (fun i j k first second => decide_eq_true ((of_decide_eq_true first).trans (of_decide_eq_true second)))
      (fun i j => by simpa [Scalar.totalLe] using le_total (e.values.get i) (e.values.get j)) _).imp of_decide_eq_true
  let nth : Fin 3 → Fin 3 := fun k => listed.getD k.val k
  have inside : ∀ k : Fin 3, k.val < listed.length := fun k => size.symm ▸ k.isLt
  have read : ∀ k : Fin 3, nth k = listed.get ⟨k.val, inside k⟩ := fun k => List.getD_eq_getElem _ _ (inside k)
  have distinct : Function.Injective nth := by
    intro i j equal
    rw [read, read] at equal
    have places := List.nodup_iff_injective_get.mp (same.nodup_iff.mpr (List.nodup_finRange 3)) equal
    exact Fin.ext (Fin.mk.inj places)
  refine ⟨Equiv.ofBijective nth (Finite.injective_iff_bijective.mp distinct), space_get_of _, matrix_of _, ?_⟩
  intro i j before
  have ordered := List.pairwise_iff_get.mp sorted ⟨i.val, inside i⟩ ⟨j.val, inside j⟩ before
  rwa [← read, ← read] at ordered

theorem ascending_ordered (e : Eigen ℝ) :
    e.ascending.values.x ≤ e.ascending.values.y ∧ e.ascending.values.y ≤ e.ascending.values.z := by
  obtain ⟨order, values, _, sorted⟩ := ascending_permutes e
  have read := congrFun values
  exact ⟨((read 0).trans_le (sorted 0 1 (by decide))).trans_eq (read 1).symm,
    ((read 1).trans_le (sorted 1 2 (by decide))).trans_eq (read 2).symm⟩

theorem ascending_decomposes (e : Eigen ℝ) (a : Matrix (Fin 3) (Fin 3) ℝ) (exact : e.Decomposes a) :
    e.ascending.Decomposes a := by
  obtain ⟨order, values, vectors, _⟩ := ascending_permutes e
  constructor
  · have columns := submatrix_mul_equiv e.vectors.toMatrixᵀ e.vectors.toMatrix order (Equiv.refl _) order
    rw [vectors, transpose_submatrix]
    exact columns.trans (by rw [exact.orthonormal, submatrix_one_equiv])
  · rw [vectors, values, ← submatrix_diagonal_equiv, transpose_submatrix, submatrix_mul_equiv, submatrix_mul_equiv,
      exact.product, submatrix_id_id]

theorem eigenvalues_nonneg (e : Eigen ℝ) (a : Matrix (Fin 3) (Fin 3) ℝ) (exact : e.Decomposes a)
    (definite : a.PosSemidef) (i : Fin 3) : 0 ≤ e.values.get i := by
  have turned : e.vectors.toMatrixᵀ * a * e.vectors.toMatrix = diagonal e.values.get := by
    rw [← exact.product]
    calc e.vectors.toMatrixᵀ * (e.vectors.toMatrix * diagonal e.values.get * e.vectors.toMatrixᵀ) * e.vectors.toMatrix
        = e.vectors.toMatrixᵀ * e.vectors.toMatrix * diagonal e.values.get *
            (e.vectors.toMatrixᵀ * e.vectors.toMatrix) := by simp only [Matrix.mul_assoc]
      _ = diagonal e.values.get := by rw [exact.orthonormal, Matrix.one_mul, Matrix.mul_one]
  have nonneg := (definite.conjTranspose_mul_mul_same e.vectors.toMatrix).diag_nonneg (i := i)
  rw [conjTranspose_eq_transpose_of_trivial, turned, diagonal_apply_eq] at nonneg
  exact nonneg

-- In ascending order the eigenvalues depend on no more than the characteristic polynomial.
theorem ascending_determined (d e : Eigen ℝ) (a b : Matrix (Fin 3) (Fin 3) ℝ) (first : d.Decomposes a)
    (second : e.Decomposes b) (same : b.charpoly = a.charpoly) : e.ascending.values = d.ascending.values := by
  have roots : ∀ (f : Eigen ℝ) c, f.Decomposes c → (f.ascending.values.toList : Multiset ℝ) = c.charpoly.roots := by
    intro f c exact
    have ordered := ascending_decomposes f c exact
    rw [← ordered.product, diagonal_roots _ _ ordered.orthonormal, Fin.univ_val_map]
    rfl
  have perm : e.ascending.values.toList.Perm d.ascending.values.toList :=
    Multiset.coe_eq_coe.mp (by rw [roots e b second, roots d a first, same])
  have sorted : ∀ f : Eigen ℝ, f.ascending.values.toList.Pairwise (· ≤ ·) := by
    intro f
    obtain ⟨low, high⟩ := ascending_ordered f
    simp [Vec3.toList, low, high, low.trans high]
  have lists := List.Perm.eq_of_pairwise (fun _ _ _ _ => le_antisymm) (sorted e) (sorted d) perm
  simp only [Vec3.toList, List.cons.injEq] at lists
  obtain ⟨x, y, z, _⟩ := lists
  cases hd : d.ascending.values
  cases he : e.ascending.values
  simp_all

end Eigenvalues

section Samples

noncomputable def sampleMean (ps : List (Vec3 ℝ)) : Fin 3 → ℝ := (ps.length : ℝ)⁻¹ • (ps.map Vec3.get).sum

-- The squared deviations from the mean, divided by one less than their number; a single point deviates from
-- no mean, and a division by zero gives zero.
noncomputable def sampleCovariance (ps : List (Vec3 ℝ)) : Matrix (Fin 3) (Fin 3) ℝ :=
  ((ps.length : ℝ) - 1)⁻¹ • (ps.map fun p => vecMulVec (p.get - sampleMean ps) (p.get - sampleMean ps)).sum

theorem outer_matrix (a b : Vec3 ℝ) : (a.outer b).toMatrix = vecMulVec a.get b.get := matrix_of _

theorem fold_sum (ps : List (Vec3 ℝ)) (start : Vec3 ℝ) :
    (ps.foldl (· + ·) start).get = start.get + (ps.map Vec3.get).sum := by
  induction ps generalizing start with
  | nil => exact (add_zero _).symm
  | cons p rest ih =>
      rw [List.foldl_cons, ih, space_get_add, List.map_cons, List.sum_cons, add_assoc]

theorem fold_outer (ps : List (Vec3 ℝ)) (m : Vec3 ℝ) (start : Mat 3 3 ℝ) :
    (ps.foldl (fun c p => c + (p - m).outer (p - m)) start).toMatrix =
      start.toMatrix + (ps.map fun p => vecMulVec (p.get - m.get) (p.get - m.get)).sum := by
  induction ps generalizing start with
  | nil => exact (add_zero _).symm
  | cons p rest ih =>
      rw [List.foldl_cons, ih, matrix_add, outer_matrix, space_get_sub, List.map_cons, List.sum_cons, add_assoc]

theorem mean_sampled (ps : List (Vec3 ℝ)) : (Map.mean ps).get = sampleMean ps := by
  rw [Map.mean, space_get_divide, Vec3.sum, fold_sum, space_get_zero, zero_add]
  rfl

theorem single_covariance (p : Vec3 ℝ) : sampleCovariance [p] = 0 := by
  simp [sampleCovariance, sampleMean]

theorem covariance_sampled (ps : List (Vec3 ℝ)) : (Map.covariance ps).toMatrix = sampleCovariance ps := by
  have total := fold_outer ps (Map.mean ps) Mat.zero
  rw [matrix_zero, zero_add, mean_sampled] at total
  rw [Map.covariance]
  by_cases several : 1 < ps.length
  · have fewer : (Scalar.ofNat ps.length : ℝ) - 1 = (ps.length : ℝ) - 1 := rfl
    rw [if_pos several, matrix_divide, total, fewer, sampleCovariance]
  · rw [if_neg several, total]
    have few : ps.length = 0 ∨ ps.length = 1 := by omega
    rcases few with none | one
    · rw [List.length_eq_zero_iff.mp none]
      simp [sampleCovariance]
    · obtain ⟨p, rfl⟩ := List.length_eq_one_iff.mp one
      rw [single_covariance]
      simp [sampleMean]

theorem covariance_definite (ps : List (Vec3 ℝ)) (filled : ps ≠ []) : (sampleCovariance ps).PosSemidef := by
  have counted : (0 : ℝ) ≤ (ps.length : ℝ) - 1 := by
    rw [sub_nonneg, Nat.one_le_cast]
    exact List.length_pos_iff.mpr filled
  refine PosSemidef.smul ?_ (inv_nonneg.mpr counted)
  clear counted filled
  generalize sampleMean ps = m
  induction ps with
  | nil => exact PosSemidef.zero
  | cons p rest ih =>
      have one := posSemidef_vecMulVec_self_star (p.get - m)
      rw [star_trivial] at one
      rw [List.map_cons, List.sum_cons]
      exact one.add ih

section Turned

variable (ps : List (Vec3 ℝ)) (t : Pose ℝ) (rigid : t.IsRigid)

include rigid

theorem turned_sum :
    ((ps.map t.apply).map Vec3.get).sum =
      t.rotation.toMat.toMatrix *ᵥ (ps.map Vec3.get).sum + (ps.length : ℝ) • t.position.get := by
  induction ps with
  | nil => simp
  | cons p rest ih =>
      simp only [List.map_cons, List.sum_cons, List.length_cons, Nat.cast_succ]
      rw [ih, apply_get t rigid, mulVec_add, add_smul, one_smul]
      abel

variable (filled : ps ≠ [])

include filled

theorem turned_mean : sampleMean (ps.map t.apply) = t.rotation.toMat.toMatrix *ᵥ sampleMean ps + t.position.get := by
  have counted : (ps.length : ℝ) ≠ 0 := Nat.cast_ne_zero.mpr (mt List.length_eq_zero_iff.mp filled)
  rw [sampleMean, sampleMean, List.length_map, turned_sum ps t rigid, smul_add, inv_smul_smul₀ counted, mulVec_smul]

-- A rigid motion moves the mean along, and turns the deviations from it.
theorem turned_covariance :
    sampleCovariance (ps.map t.apply) =
      t.rotation.toMat.toMatrix * sampleCovariance ps * t.rotation.toMat.toMatrixᵀ := by
  have mean := turned_mean ps t rigid filled
  have deviation : ∀ p : Vec3 ℝ, (t.apply p).get - sampleMean (ps.map t.apply) =
      t.rotation.toMat.toMatrix *ᵥ (p.get - sampleMean ps) := by
    intro p
    rw [mean, apply_get t rigid, add_sub_add_right_eq_sub, ← mulVec_sub]
  have turned : ∀ d : Fin 3 → ℝ, vecMulVec (t.rotation.toMat.toMatrix *ᵥ d) (t.rotation.toMat.toMatrix *ᵥ d) =
      t.rotation.toMat.toMatrix * vecMulVec d d * t.rotation.toMat.toMatrixᵀ := by
    intro d
    rw [mul_vecMulVec, vecMulVec_mul, vecMul_transpose]
  rw [sampleCovariance, sampleCovariance, List.length_map, List.map_map, Function.comp_def]
  simp only [deviation, turned]
  rw [List.sum_map_mul_right, List.sum_map_mul_left, Matrix.mul_smul, Matrix.smul_mul]

end Turned

end Samples

end LandmarkMap
