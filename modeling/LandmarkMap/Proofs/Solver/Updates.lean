import LandmarkMap.Proofs.Exact.Jacobians
import LandmarkMap.Proofs.Solver.Slots
import LandmarkMap.Solver.Parameterization

set_option autoImplicit false

namespace LandmarkMap

open Filter Topology

-- What a solver makes of the Jacobian `written` for a block `x`: it multiplies it with that of the
-- update. The product is the derivative of the residuals by the update, where nothing is moved yet.
structure ExactJacobian (t : CostTerm ℝ) (p : Parameterization ℝ) (parameters : List (List ℝ)) (block : Nat)
    (written x update : List ℝ) (ambient : Mat t.residualCount p.globalSize ℝ)
    (tangent : Mat p.globalSize p.localSize ℝ) (moved : (Fin p.localSize → ℝ) → List ℝ)
    (residuals : (Fin p.localSize → ℝ) → Fin t.residualCount → ℝ) : Prop where
  held : parameters[block]? = some x
  reads : Mat.ofRowMajor t.residualCount p.globalSize written = .ok ambient
  jacobian : ∀ buffer : List ℝ, buffer.length = p.globalSize * p.localSize → p.jacobian x buffer = .ok (true, update)
  updateReads : Mat.ofRowMajor p.globalSize p.localSize update = .ok tangent
  plus : ∀ (δ : Fin p.localSize → ℝ) (out : List ℝ), out.length = p.globalSize →
    p.plus x (List.ofFn δ) out = .ok (true, moved δ)
  still : moved 0 = x
  nearby : ∀ᶠ δ in 𝓝 0, t.evaluate (parameters.set block (moved δ)) (Buffers.plain t.residualCount) =
    .ok (true, ⟨List.ofFn (residuals δ), none⟩)
  derivative : HasJacobian residuals (ambient.toMatrix * tangent.toMatrix) 0

def CostTerm.ExactAt (t : CostTerm ℝ) (p : Parameterization ℝ) (parameters : List (List ℝ)) (block : Nat)
    (written : List ℝ) : Prop :=
  ∃ x update ambient tangent moved residuals,
    ExactJacobian t p parameters block written x update ambient tangent moved residuals

-- Every block has its update, and every slot that is not empty gets an exact Jacobian.
structure CostTerm.WritesExact (t : CostTerm ℝ) (updates : List (Parameterization ℝ)) (parameters : List (List ℝ))
    (slots out : List (Option (List ℝ))) : Prop where
  sizes : updates.map (·.globalSize) = t.blockSizes
  exact : ∀ (block : Nat) (p : Parameterization ℝ) (buffer : List ℝ), updates[block]? = some p →
    slots[block]? = some (some buffer) →
    ∃ written, out[block]? = some (some written) ∧ t.ExactAt p parameters block written

theorem quaternion_block {α : Type} (q : Quaternion α) : Block.quaternion q.toList = .ok q := rfl

theorem vector_block {α : Type} (v : Vec3 α) : Block.vector v.toList = .ok v := rfl

theorem space_cells (y : Fin 3 → ℝ) : List.ofFn y = (Vec3.of y).toList := List.ofFn_succ

theorem vector_cells {count : Nat} (v : Vector ℝ count) : v.toList = List.ofFn v.get := by
  rw [← Vector.toList_ofFn]
  congr 1
  apply Vector.ext
  intro i inside
  rw [Vector.getElem_ofFn]
  rfl

theorem write_front_ok (values buffer : List ℝ) (fits : values.length ≤ buffer.length) :
    Block.writeFront values buffer = .ok (values ++ buffer.drop values.length) := by
  rw [Block.writeFront, if_pos fits]

theorem plain_fits (t : CostTerm ℝ) : t.Fits (Buffers.plain t.residualCount) := by
  refine ⟨?_, fun _ none => by cases none⟩
  rw [Buffers.plain, List.length_replicate]

theorem write_all_ok (values buffer : List ℝ) (fits : values.length = buffer.length) :
    Block.writeAll values buffer = .ok values := by
  rw [Block.writeAll, if_pos fits]

theorem fetch_component {n : Nat} (δ : Fin n → ℝ) (i : Fin n) :
    (fetch (List.ofFn δ) i : Except (Fault ℝ) ℝ) = .ok (δ i) := by
  rw [fetch_ok, List.getElem?_ofFn, dif_pos i.isLt]

theorem quaternion_plus (q : Quaternion ℝ) (δ : Fin 3 → ℝ) (out : List ℝ) (fits : out.length = 4) :
    Parameterization.quaternion.plus q.toList (List.ofFn δ) out =
      .ok (true, (Quaternion.exp (Vec3.of δ) * q).toList) := by
  have finite : ¬ (Vec3.isFinite (⟨δ 0, δ 1, δ 2⟩ : Vec3 ℝ) = false) := Bool.noConfusion
  have room : (Quaternion.exp (Vec3.of δ) * q).toList.length = out.length := fits.symm
  have first := fetch_component δ 0
  have second := fetch_component δ 1
  have third := fetch_component δ 2
  simp only [Fin.val_zero, Fin.val_one, Fin.val_two] at first second third
  simp only [Parameterization.quaternion, quaternion_block, first, second, third, ok_bind, if_neg finite]
  exact (bind_ok _ _ _).mpr ⟨_, write_all_ok _ _ room, rfl⟩

theorem quaternion_jacobian {α : Type} [Scalar α] (q : Quaternion α) (buffer : List α) (fits : buffer.length = 4 * 3) :
    Parameterization.quaternion.jacobian q.toList buffer = .ok (true, q.plusJacobian.entries) := by
  simp only [Parameterization.quaternion, quaternion_block, ok_bind, write_row_major_ok _ _ fits]
  rfl

theorem bearing_of_block {α : Type} [Scalar α] (q : Quaternion α) : Parameterization.bearingOf q.toList = .ok ⟨q.normalize⟩ := rfl

theorem bearing_of_unit (q : Quaternion ℝ) (unit : q.IsUnit) : Parameterization.bearingOf q.toList = .ok ⟨q⟩ := by
  rw [bearing_of_block, unit_normalize q unit]

theorem bearing_plus (q : Quaternion ℝ) (unit : q.IsUnit) (δ : Fin 2 → ℝ) (out : List ℝ) (fits : out.length = 4) :
    Parameterization.bearing.plus q.toList (List.ofFn δ) out =
      .ok (true, (Bearing.plus ⟨q⟩ (Vec2.of δ)).rotation.toList) := by
  have finite : ¬ (Vec2.isFinite (⟨δ 0, δ 1⟩ : Vec2 ℝ) = false) := Bool.noConfusion
  have room : (Bearing.plus ⟨q⟩ (Vec2.of δ)).rotation.toList.length = out.length := fits.symm
  have first := fetch_component δ 0
  have second := fetch_component δ 1
  simp only [Fin.val_zero, Fin.val_one] at first second
  simp only [Parameterization.bearing, bearing_of_unit q unit, first, second, ok_bind, if_neg finite]
  exact (bind_ok _ _ _).mpr ⟨_, write_all_ok _ _ room, rfl⟩

theorem block_bearing_jacobian {α : Type} [Scalar α] (q : Quaternion α) (buffer : List α) (fits : buffer.length = 4 * 2) :
    Parameterization.bearing.jacobian q.toList buffer = .ok (true, (Bearing.plusJacobian ⟨q.normalize⟩).entries) := by
  simp only [Parameterization.bearing, bearing_of_block, ok_bind, write_row_major_ok _ _ fits]
  rfl

theorem bearing_jacobian (q : Quaternion ℝ) (unit : q.IsUnit) (buffer : List ℝ) (fits : buffer.length = 4 * 2) :
    Parameterization.bearing.jacobian q.toList buffer = .ok (true, (Bearing.plusJacobian ⟨q⟩).entries) := by
  rw [block_bearing_jacobian q buffer fits, unit_normalize q unit]

theorem add_blocks_zip (x δ out : List ℝ) (same : δ.length = x.length) (fits : out.length = x.length) :
    Parameterization.addBlocks x δ out = List.zipWith (· + ·) x δ := by
  induction x generalizing δ out with
  | nil =>
      rw [List.eq_nil_of_length_eq_zero same, List.eq_nil_of_length_eq_zero fits]
      rfl
  | cons first rest ih =>
      cases δ with
      | nil => cases same
      | cons step steps =>
          cases out with
          | nil => cases fits
          | cons _ remaining =>
              rw [Parameterization.addBlocks, List.zipWith_cons_cons,
                ih steps remaining (Nat.succ.inj same) (Nat.succ.inj fits)]

-- The identity as far as its rows below `i` are written.
def upperIdentity (size i : Nat) : Mat size size ℝ := Mat.of fun row column => if row = column ∧ row.val < i then 1 else 0

theorem upper_identity_none (size : Nat) : (upperIdentity size 0).entries = List.replicate (size * size) 0 := by
  rw [entries_cells]
  apply List.ext_getElem
  · rw [List.length_ofFn, List.length_replicate]
  · intro cell inside there
    simp [upperIdentity]

theorem upper_identity_all (size : Nat) : upperIdentity size size = Mat.identity := by
  apply Mat.ext_get
  intro row column
  simp [upperIdentity, Mat.identity]

theorem upper_identity_next (size : Nat) (i : Fin size) :
    (upperIdentity size i).entries.set (i.val * size + i.val) 1 = (upperIdentity size (i + 1)).entries := by
  rw [entries_set]
  congr 1
  apply Mat.ext_get
  intro row column
  simp only [upperIdentity, Mat.get_of]
  by_cases diagonal : row = column
  · subst diagonal
    by_cases here : row = i
    · simp [here]
    · have apart : row.val ≠ i.val := fun same => here (Fin.ext same)
      have below : row.val < i.val + 1 ↔ row.val < i.val := by omega
      simp [here, below]
  · have off : ¬ (row = i ∧ column = i) := fun both => diagonal (both.1.trans both.2.symm)
    simp [diagonal, off]

theorem write_diagonal_ok (size n i : Nat) (rows : i + n = size) :
    Parameterization.writeDiagonal size n i (upperIdentity size i).entries = .ok (Mat.identity : Mat size size ℝ).entries := by
  induction n generalizing i with
  | zero =>
      rw [Nat.add_zero] at rows
      subst rows
      rw [upper_identity_all]
      rfl
  | succ n ih =>
      have row : i < size := by omega
      have inside : i * size + i < (upperIdentity size i).entries.length := by
        rw [entries_length]
        exact Mat.row_major_bound ⟨i, row⟩ ⟨i, row⟩
      rw [Parameterization.writeDiagonal, if_pos inside, upper_identity_next size ⟨i, row⟩]
      exact ih (i + 1) (by omega)

theorem identity_jacobian (size : Nat) (x buffer : List ℝ) (fits : buffer.length = size * size) :
    (Parameterization.euclideanOf size).jacobian x buffer = .ok (true, (Mat.identity : Mat size size ℝ).entries) := by
  have written := write_diagonal_ok size size 0 (Nat.zero_add size)
  rw [upper_identity_none, ← fits] at written
  exact (bind_ok _ _ _).mpr ⟨_, written, rfl⟩

theorem zip_of_fn {n : Nat} {τ ρ σ : Type} (f : τ → ρ → σ) (a : Fin n → τ) (b : Fin n → ρ) :
    (List.ofFn a).zipWith f (List.ofFn b) = List.ofFn fun i => f (a i) (b i) := by
  apply List.ext_getElem
  · simp
  · simp

theorem identity_plus {n : Nat} (x δ : Fin n → ℝ) (out : List ℝ) (fits : out.length = n) :
    (Parameterization.euclideanOf n).plus (List.ofFn x) (List.ofFn δ) out = .ok (true, List.ofFn (x + δ)) := by
  have same : (List.ofFn δ).length = (List.ofFn x).length := by rw [List.length_ofFn, List.length_ofFn]
  have room : out.length = (List.ofFn x).length := by rw [fits, List.length_ofFn]
  have added := add_blocks_zip (List.ofFn x) (List.ofFn δ) out same room
  rw [zip_of_fn] at added
  exact congrArg (fun moved => Except.ok (true, moved)) added

theorem turn_still (q : Quaternion ℝ) : Quaternion.exp (Vec3.of (0 : Fin 3 → ℝ)) * q = q :=
  (congrArg (· * q) exp_zero).trans (identity_product q)

theorem quaternion_exact (t : CostTerm ℝ) (parameters : List (List ℝ)) (block : Nat) (q : Quaternion ℝ)
    (ambient : Mat t.residualCount 4 ℝ) (residuals : (Fin 3 → ℝ) → Fin t.residualCount → ℝ)
    (held : parameters[block]? = some q.toList)
    (nearby : ∀ᶠ δ in 𝓝 (0 : Fin 3 → ℝ), t.evaluate (parameters.set block (Quaternion.exp (Vec3.of δ) * q).toList)
      (Buffers.plain t.residualCount) = .ok (true, ⟨List.ofFn (residuals δ), none⟩))
    (derivative : HasJacobian residuals (ambient.toMatrix * q.plusJacobian.toMatrix) 0) :
    t.ExactAt .quaternion parameters block ambient.entries := by
  refine ⟨q.toList, q.plusJacobian.entries, ambient, q.plusJacobian,
    fun δ => (Quaternion.exp (Vec3.of δ) * q).toList, residuals, ?_⟩
  refine ⟨held, entries_read _, fun buffer fits => quaternion_jacobian q buffer fits, entries_read _,
    fun δ out fits => quaternion_plus q δ out fits, congrArg Quaternion.toList (turn_still q), nearby, derivative⟩

theorem bearing_still (q : Quaternion ℝ) : (Bearing.plus ⟨q⟩ (Vec2.of (0 : Fin 2 → ℝ))).rotation = q := by
  have nowhere : Bearing.tangent ⟨q⟩ (Vec2.of (0 : Fin 2 → ℝ)) = Vec3.zero := by
    apply space_ext
    rw [Bearing.tangent, act_plane_get, plane_get_of, Matrix.mulVec_zero, space_get_zero]
  rw [Bearing.plus, nowhere, exp_zero, identity_product]

theorem bearing_exact (t : CostTerm ℝ) (parameters : List (List ℝ)) (block : Nat) (q : Quaternion ℝ)
    (unit : q.IsUnit) (ambient : Mat t.residualCount 4 ℝ) (residuals : (Fin 2 → ℝ) → Fin t.residualCount → ℝ)
    (held : parameters[block]? = some q.toList)
    (nearby : ∀ᶠ δ in 𝓝 (0 : Fin 2 → ℝ),
      t.evaluate (parameters.set block (Bearing.plus ⟨q⟩ (Vec2.of δ)).rotation.toList)
        (Buffers.plain t.residualCount) = .ok (true, ⟨List.ofFn (residuals δ), none⟩))
    (derivative : HasJacobian residuals (ambient.toMatrix * (Bearing.plusJacobian ⟨q⟩).toMatrix) 0) :
    t.ExactAt .bearing parameters block ambient.entries := by
  refine ⟨q.toList, (Bearing.plusJacobian ⟨q⟩).entries, ambient, Bearing.plusJacobian ⟨q⟩,
    fun δ => (Bearing.plus ⟨q⟩ (Vec2.of δ)).rotation.toList, residuals, ?_⟩
  refine ⟨held, entries_read _, fun buffer fits => bearing_jacobian q unit buffer fits, entries_read _,
    fun δ out fits => bearing_plus q unit δ out fits, congrArg Quaternion.toList (bearing_still q), nearby, derivative⟩

theorem identity_exact (t : CostTerm ℝ) (parameters : List (List ℝ)) (block : Nat) {n : Nat} (x : Fin n → ℝ)
    (ambient : Mat t.residualCount n ℝ) (residuals : (Fin n → ℝ) → Fin t.residualCount → ℝ)
    (held : parameters[block]? = some (List.ofFn x))
    (nearby : ∀ᶠ y in 𝓝 x, t.evaluate (parameters.set block (List.ofFn y)) (Buffers.plain t.residualCount) =
      .ok (true, ⟨List.ofFn (residuals y), none⟩))
    (derivative : HasJacobian residuals ambient.toMatrix x) :
    t.ExactAt (.euclideanOf n) parameters block ambient.entries := by
  refine ⟨List.ofFn x, (Mat.identity : Mat n n ℝ).entries, ambient, Mat.identity,
    fun δ : Fin n → ℝ => List.ofFn (x + δ), fun δ : Fin n → ℝ => residuals (x + δ), ?_⟩
  have shift : Tendsto (fun δ : Fin n → ℝ => x + δ) (𝓝 0) (𝓝 x) := by
    simpa using (continuous_const_add x).tendsto 0
  have added : HasJacobian (fun δ : Fin n → ℝ => residuals (x + δ))
      (ambient.toMatrix * (Mat.identity : Mat n n ℝ).toMatrix) 0 := by
    rw [matrix_identity, Matrix.mul_one]
    refine (hasFDerivAt_comp_add_left x).mpr ?_
    rw [add_zero]
    exact derivative
  exact ⟨held, entries_read _, fun buffer fits => identity_jacobian n _ buffer fits, entries_read _,
    fun δ out fits => identity_plus x δ out fits, congrArg List.ofFn (add_zero x), shift.eventually nearby, added⟩

end LandmarkMap
