import LandmarkMap.Proofs.Exact.Rotations
import LandmarkMap.Proofs.SignedScalars
import LandmarkMap.Proofs.Solver.RowMajor

set_option autoImplicit false

namespace LandmarkMap

section Entries

variable {α : Type} {m n k : Nat}

theorem get_stack_top {p : Nat} (a : Mat m n α) (b : Mat p n α) (i : Fin m) (j : Fin n) :
    (a.stack b).get (Fin.castAdd p i) j = a.get i j := by
  simp [Mat.stack, Mat.get]

theorem get_stack_bottom {p : Nat} (a : Mat m n α) (b : Mat p n α) (i : Fin p) (j : Fin n) :
    (a.stack b).get (Fin.natAdd m i) j = b.get i j := by
  simp [Mat.stack, Mat.get]

theorem get_transpose (a : Mat m n α) (i : Fin n) (j : Fin m) : a.transpose.get i j = a.get j i := Mat.get_of _ i j

variable [Scalar α]

theorem get_opposite (a : Mat m n α) (i : Fin m) (j : Fin n) : (-a).get i j = -a.get i j := Mat.get_of _ i j

theorem get_difference (a b : Mat m n α) (i : Fin m) (j : Fin n) : (a - b).get i j = a.get i j - b.get i j := Mat.get_of _ i j

theorem get_mul (a : Mat m k α) (b : Mat k n α) (i : Fin m) (j : Fin n) :
    (a * b).get i j = sumFin k fun l => a.get i l * b.get l j := Mat.get_of _ i j

theorem get_scale (a : Mat m n α) (s : α) (i : Fin m) (j : Fin n) : (a.scale s).get i j = a.get i j * s := Mat.get_of _ i j

theorem get_divide (a : Mat m n α) (s : α) (i : Fin m) (j : Fin n) : (a.divide s).get i j = a.get i j / s := Mat.get_of _ i j

theorem opposite_entries (a : Mat m n α) : (-a).entries = a.entries.map Neg.neg := by
  rw [entries_cells, entries_cells, List.map_ofFn]
  congr 1
  funext cell
  exact get_opposite a _ _

theorem opposite_stack {p : Nat} (a : Mat m n α) (b : Mat p n α) : (-a).stack (-b) = -a.stack b := by
  apply Mat.ext_get
  intro i j
  refine Fin.addCases (fun i => ?_) (fun i => ?_) i
  · rw [get_opposite, get_stack_top, get_stack_top, get_opposite]
  · rw [get_opposite, get_stack_bottom, get_stack_bottom, get_opposite]

theorem opposite_transpose (a : Mat m n α) : (-a).transpose = -a.transpose := by
  apply Mat.ext_get
  intro i j
  rw [get_transpose, get_opposite, get_opposite, get_transpose]

end Entries

section Matrices

variable {α : Type} [Scalar α] {m n k : Nat}

def SameMat (a b : Mat m n α) : Prop := ∀ i j, Same (a.get i j) (b.get i j)

theorem same_mat_refl (a : Mat m n α) : SameMat a a := fun _ _ => same_refl _

theorem same_transpose {a b : Mat m n α} (same : SameMat a b) : SameMat a.transpose b.transpose := by
  intro i j
  rw [get_transpose, get_transpose]
  exact same j i

theorem same_stack {p : Nat} {a b : Mat m n α} (same : SameMat a b) (c : Mat p n α) : SameMat (a.stack c) (b.stack c) := by
  intro i j
  refine Fin.addCases (fun i => ?_) (fun i => ?_) i
  · rw [get_stack_top, get_stack_top]
    exact same i j
  · rw [get_stack_bottom, get_stack_bottom]
    exact same_refl _

theorem same_entries {a b : Mat m n α} (same : SameMat a b) : List.Forall₂ Same a.entries b.entries := by
  rw [entries_cells, entries_cells, List.forall₂_iff_get]
  exact ⟨by rw [List.length_ofFn, List.length_ofFn], fun i _ _ => by simpa using same _ _⟩

theorem same_from_entries {a b : Mat m n α} (same : List.Forall₂ Same a.entries b.entries) : SameMat a b := by
  intro i j
  obtain ⟨_, each⟩ := List.forall₂_iff_zip.mp same
  refine each (List.mem_of_getElem? (i := i.val * n + j.val) ?_)
  exact List.getElem?_zip_eq_some.mpr ⟨entries_cell a i j, entries_cell b i j⟩

variable [SignedScalar α]

theorem same_mat_trans {a b c : Mat m n α} (first : SameMat a b) (second : SameMat b c) : SameMat a c :=
  fun i j => SignedScalar.trans _ _ _ (first i j) (second i j)

theorem same_difference {a b c d : Mat m n α} (first : SameMat a b) (second : SameMat c d) : SameMat (a - c) (b - d) := by
  intro i j
  rw [get_difference, get_difference, SignedScalar.sub_eq, SignedScalar.sub_eq]
  exact SignedScalar.sum _ _ _ _ (first i j) (SignedScalar.neg _ _ (second i j))

theorem same_scale {a b : Mat m n α} (same : SameMat a b) (s : α) : SameMat (a.scale s) (b.scale s) := by
  intro i j
  rw [get_scale, get_scale]
  exact SignedScalar.product _ _ _ _ (same i j) (same_refl s)

theorem same_divide {a b : Mat m n α} (same : SameMat a b) (s : α) : SameMat (a.divide s) (b.divide s) := by
  intro i j
  rw [get_divide, get_divide]
  exact SignedScalar.quotient _ _ _ (same i j)

theorem same_sum_fin (n : Nat) {f g : Fin n → α} (same : ∀ i, Same (f i) (g i)) : Same (sumFin n f) (sumFin n g) := by
  rw [sumFin, sumFin]
  induction n with
  | zero => exact same_refl _
  | succ n ih =>
      rw [Fin.foldl_succ_last, Fin.foldl_succ_last]
      exact SignedScalar.sum _ _ _ _ (ih fun i => same i.castSucc) (same (Fin.last n))

theorem same_mul {a b : Mat m k α} {c d : Mat k n α} (first : SameMat a b) (second : SameMat c d) :
    SameMat (a * c) (b * d) := by
  intro i j
  rw [get_mul, get_mul]
  exact same_sum_fin k fun l => SignedScalar.product _ _ _ _ (first i l) (second l j)

end Matrices

section Opposites

variable {α : Type} [Scalar α] [SignedScalar α]

theorem opposite_product (a b : α) : -a * -b = a * b := by
  rw [SignedScalar.neg_mul, SignedScalar.mul_neg, SignedScalar.neg_neg]

theorem opposite_more {a b : α} (same : Same a (-b)) (c : α) : Same (a + -c) (-(b + c)) :=
  SignedScalar.trans _ _ _ (SignedScalar.sum _ _ _ _ same (same_refl (-c))) (SignedScalar.neg_sum b c)

theorem opposite_less {a b : α} (same : Same a (-b)) (c : α) : Same (a - -c) (-(b - c)) := by
  rw [SignedScalar.sub_eq, SignedScalar.sub_eq]
  exact opposite_more same (-c)

-- Both sums begin at the positive zero.
theorem opposite_sum (n : Nat) (f : Fin n → α) : Same (sumFin n fun i => -f i) (-sumFin n f) := by
  rw [sumFin, sumFin]
  induction n with
  | zero => exact SignedScalar.symm _ _ SignedScalar.neg_zero
  | succ n ih =>
      rw [Fin.foldl_succ_last, Fin.foldl_succ_last]
      exact opposite_more (ih fun i => f i.castSucc) _

section Matrices

variable {m n k : Nat}

theorem opposite_difference (a b : Mat m n α) : SameMat (-a - -b) (-(a - b)) := by
  intro i j
  rw [get_difference, get_opposite, get_opposite, get_opposite, get_difference]
  exact opposite_less (same_refl _) _

theorem opposite_scale (a : Mat m n α) (s : α) : (-a).scale s = -a.scale s := by
  apply Mat.ext_get
  intro i j
  rw [get_scale, get_opposite, get_opposite, get_scale, SignedScalar.neg_mul]

theorem scale_opposite (a : Mat m n α) (s : α) : a.scale (-s) = -a.scale s := by
  apply Mat.ext_get
  intro i j
  rw [get_scale, get_opposite, get_scale, SignedScalar.mul_neg]

theorem opposite_divide (a : Mat m n α) (s : α) : (-a).divide s = -a.divide s := by
  apply Mat.ext_get
  intro i j
  rw [get_divide, get_opposite, get_opposite, get_divide, SignedScalar.neg_div]

theorem mul_opposite (a : Mat m k α) (b : Mat k n α) : SameMat (a * -b) (-(a * b)) := by
  intro i j
  rw [get_opposite, get_mul, get_mul]
  simp only [get_opposite, SignedScalar.mul_neg]
  exact opposite_sum k _

theorem opposite_mul (a : Mat m k α) (b : Mat k n α) : SameMat (-a * b) (-(a * b)) := by
  intro i j
  rw [get_opposite, get_mul, get_mul]
  simp only [get_opposite, SignedScalar.neg_mul]
  exact opposite_sum k _

theorem opposites_mul (a : Mat m k α) (b : Mat k n α) : -a * -b = a * b := by
  apply Mat.ext_get
  intro i j
  rw [get_mul, get_mul]
  simp only [get_opposite, opposite_product]

def SameVector (u v : Vec3 α) : Prop := Same u.x v.x ∧ Same u.y v.y ∧ Same u.z v.z

theorem same_skew {u v : Vec3 α} (same : SameVector u v) : SameMat u.skew v.skew := by
  obtain ⟨x, y, z⟩ := same
  intro i j
  fin_cases i <;> fin_cases j
  all_goals first
    | exact same_refl _
    | exact SignedScalar.neg _ _ ‹_›
    | assumption

theorem opposite_skew (v : Vec3 α) : SameMat (-v).skew (-v.skew) := by
  intro i j
  rw [get_opposite]
  fin_cases i <;> fin_cases j
  all_goals first
    | exact same_refl _
    | exact SignedScalar.symm _ _ SignedScalar.neg_zero

end Matrices

section Quaternions

def SameQuaternion (p q : Quaternion α) : Prop := SameVector p.imag q.imag ∧ Same p.w q.w

variable (q : Quaternion α)

theorem opposite_norm : (-q).norm = q.norm := by
  have squares : (-q).dot (-q) = q.dot q := by
    change -q.x * -q.x + -q.z * -q.z + (-q.y * -q.y + -q.w * -q.w) = _
    rw [opposite_product, opposite_product, opposite_product, opposite_product]
    rfl
  rw [Quaternion.norm, Quaternion.norm, squares]

theorem opposite_normalize : (-q).normalize = -q.normalize := by
  rw [Quaternion.normalize, opposite_norm]
  change (⟨-q.x / q.norm, -q.y / q.norm, -q.z / q.norm, -q.w / q.norm⟩ : Quaternion α) = _
  rw [SignedScalar.neg_div, SignedScalar.neg_div, SignedScalar.neg_div, SignedScalar.neg_div]
  rfl

-- The matrix is made of products of two coefficients.
theorem opposite_rotation : (-q).toMat = q.toMat := by
  change Quaternion.toMat ⟨-q.x, -q.y, -q.z, -q.w⟩ = _
  simp only [Quaternion.toMat, opposite_product]

theorem opposite_normalized_rotation : (-q).normalize.toMat = q.normalize.toMat := by
  rw [opposite_normalize, opposite_rotation]

theorem opposite_finite : (-q).isFinite = q.isFinite := by
  change (Scalar.isFinite (-q.x) && Scalar.isFinite (-q.y) && Scalar.isFinite (-q.z) && Scalar.isFinite (-q.w)) = _
  rw [SignedScalar.finite, SignedScalar.finite, SignedScalar.finite, SignedScalar.finite]
  rfl

theorem opposite_quotient (p : Quaternion α) : SameQuaternion (-q * p) (-(q * p)) := by
  have linear : SameQuaternion ((⟨-q.x, -q.y, -q.z, -q.w⟩ : Quaternion α) * p) (-(q * p)) := by
    rw [quaternion_product, quaternion_product]
    simp only [SignedScalar.neg_mul]
    refine ⟨⟨?x, ?y, ?z⟩, ?w⟩
    case x => exact opposite_less (opposite_more (opposite_more (same_refl _) _) _) _
    case y => exact opposite_more (opposite_more (opposite_less (same_refl _) _) _) _
    case z => exact opposite_more (opposite_less (opposite_more (same_refl _) _) _) _
    case w => exact opposite_less (opposite_less (opposite_less (same_refl _) _) _) _
  exact linear

theorem opposite_plus_jacobian : SameMat (-q).plusJacobian (-q.plusJacobian) := by
  have top : SameMat (Mat.identity.scale (-q).w - (-q).imag.skew) (-(Mat.identity.scale q.w - q.imag.skew)) := by
    change SameMat (Mat.identity.scale (-q.w) - (-q.imag).skew) _
    rw [scale_opposite]
    exact same_mat_trans (same_difference (same_mat_refl _) (opposite_skew q.imag)) (opposite_difference _ _)
  have bottom : (⟨#v[#v[- -q.x, - -q.y, - -q.z]]⟩ : Mat 1 3 α) = -⟨#v[#v[-q.x, -q.y, -q.z]]⟩ := by
    apply Mat.ext_get
    intro i j
    rw [get_opposite]
    fin_cases i
    fin_cases j <;> rfl
  rw [Quaternion.plusJacobian, Quaternion.plusJacobian, ← opposite_scale, ← opposite_stack, ← bottom]
  exact same_scale (same_stack top _) 0.5

theorem same_lift {r : Nat} {j k : Mat r 3 α} (same : SameMat j k) : SameMat (Quaternion.lift j q) (Quaternion.lift k q) :=
  same_scale (same_mul same (same_mat_refl _)) 4.0

theorem opposite_lift {r : Nat} (j : Mat r 3 α) : SameMat (Quaternion.lift j (-q)) (-Quaternion.lift j q) := by
  have transposed : SameMat (-q).plusJacobian.transpose (-q.plusJacobian.transpose) := by
    rw [← opposite_transpose]
    exact same_transpose (opposite_plus_jacobian q)
  rw [Quaternion.lift, Quaternion.lift, ← opposite_scale]
  exact same_scale (same_mat_trans (same_mul (same_mat_refl j) transposed) (mul_opposite j _)) 4.0

theorem opposite_direction : Bearing.directionOf (-q) = Bearing.directionOf q := by
  change Bearing.directionOf ⟨-q.x, -q.y, -q.z, -q.w⟩ = _
  simp only [Bearing.directionOf, opposite_product]

theorem opposite_direction_jacobian : Bearing.directionJacobian (-q) = -Bearing.directionJacobian q := by
  apply Mat.ext_get
  intro i j
  rw [get_opposite]
  fin_cases i <;> fin_cases j
  all_goals exact SignedScalar.mul_neg _ _

theorem opposite_bearing_jacobian : SameMat (Bearing.plusJacobian ⟨-q⟩) (-Bearing.plusJacobian ⟨q⟩) := by
  have plane : Bearing.tangentBasis ⟨-q⟩ = Bearing.tangentBasis ⟨q⟩ := by
    rw [Bearing.tangentBasis, Bearing.tangentBasis, opposite_rotation]
  rw [Bearing.plusJacobian, Bearing.plusJacobian, plane]
  exact same_mat_trans (same_mul (opposite_plus_jacobian q) (same_mat_refl _)) (opposite_mul _ _)

-- Of a quaternion and its opposite, the product is made with the one that has the scalar part on the
-- positive side.
theorem opposite_positive_product (p : Quaternion α) (turned : 0 < (q * p).w ∨ (q * p).w < 0) :
    SameQuaternion ((-q).positiveProduct p).1 (q.positiveProduct p).1 := by
  obtain ⟨⟨x, y, z⟩, w⟩ := opposite_quotient q p
  have sides : (-q * p).w < 0 ↔ ¬ (q * p).w < 0 := (SignedScalar.below _ _ w).trans (SignedScalar.side _ turned)
  have twice : ∀ a b : α, Same a (-b) → Same (-a) b := by
    intro a b same
    have turned := SignedScalar.neg a (-b) same
    rwa [SignedScalar.neg_neg] at turned
  rw [Quaternion.positiveProduct, Quaternion.positiveProduct]
  by_cases down : (q * p).w < 0
  · have up : ¬ (-q * p).w < 0 := fun both => sides.mp both down
    rw [if_pos down, if_neg up]
    exact ⟨⟨x, y, z⟩, w⟩
  · rw [if_neg down, if_pos (sides.mpr down)]
    exact ⟨⟨twice _ _ x, twice _ _ y, twice _ _ z⟩, twice _ _ w⟩

end Quaternions

end Opposites

end LandmarkMap
