import LandmarkMap.Proofs.Solver.Updates
import LandmarkMap.Solver.PosePrior

set_option autoImplicit false

namespace LandmarkMap

open Filter Topology Matrix

namespace PosePrior

variable {α : Type} [Scalar α]

def jacobians (prior : PosePrior α) (q : Quaternion α) : List (BlockJacobian 6 α) :=
  [⟨0, 4, prior.rotationJacobian q⟩, ⟨1, 3, prior.positionJacobian⟩]

-- The rotation moves along the unit quaternions, the position along the axes.
def updates : List (Parameterization α) := [.quaternion, .euclideanOf 3]

end PosePrior

theorem prior_evaluates (prior : PosePrior ℝ) (q : Quaternion ℝ) (p : Vec3 ℝ) (buffers : Buffers ℝ)
    (fits : prior.term.Fits buffers) :
    ∃ filled, prior.evaluate [q.toList, p.toList] buffers =
        .ok (true, ⟨(prior.residual q p).toList ++ buffers.residuals.drop 6, filled⟩) ∧
      (buffers.jacobians = none → filled = none) ∧
      ∀ slots, buffers.jacobians = some slots → ∃ out, filled = some out ∧ fillAll slots (prior.jacobians q) = .ok out := by
  have room : (prior.residual q p).toList.length ≤ buffers.residuals.length := by
    rw [Vector.length_toList]
    exact fits.residuals
  have written := write_front_ok _ _ room
  rw [Vector.length_toList] at written
  have finite : ¬ ((q.isFinite && p.isFinite) = false) := Bool.noConfusion
  have first : (fetch [q.toList, p.toList] 0 : Except (Fault ℝ) _) = .ok q.toList := rfl
  have second : (fetch [q.toList, p.toList] 1 : Except (Fault ℝ) _) = .ok p.toList := rfl
  simp only [PosePrior.evaluate, first, second, quaternion_block, vector_block, ok_bind, if_neg finite, written]
  cases asked : buffers.jacobians with
  | none => exact ⟨none, rfl, fun _ => rfl, fun _ none => by cases none⟩
  | some slots =>
      obtain ⟨out, filled⟩ : ∃ out, fillAll slots (prior.jacobians q) = .ok out :=
        listed_fit prior.term (prior.jacobians q) rfl buffers fits slots asked
      refine ⟨some out, ?_, fun none => (by cases none), fun _ same => ⟨out, rfl, Option.some.inj same ▸ filled⟩⟩
      obtain ⟨turned, wrote, rest⟩ := (bind_ok _ _ _).mp filled
      obtain ⟨shifted, wroteToo, done⟩ := (bind_ok _ _ _).mp rest
      cases done
      simp only [wrote, wroteToo, ok_bind]
      rfl

theorem prior_residuals (prior : PosePrior ℝ) (q : Quaternion ℝ) (p : Vec3 ℝ) :
    prior.evaluate [q.toList, p.toList] (Buffers.plain 6) = .ok (true, ⟨List.ofFn (prior.residual q p).get, none⟩) := by
  obtain ⟨filled, done, empty, _⟩ := prior_evaluates prior q p (Buffers.plain 6) (plain_fits prior.term)
  rw [done, empty rfl, Buffers.plain, List.drop_replicate, vector_cells, Nat.sub_self, List.replicate_zero, List.append_nil]

-- Times the four of the lift, the ambient Jacobian gives back what it was lifted from.
theorem prior_rotation_tangent (prior : PosePrior ℝ) (q : Quaternion ℝ) (unit : q.IsUnit) :
    (prior.rotationJacobian q).toMatrix * q.plusJacobian.toMatrix =
      prior.sqrtInformation.toMatrix *
        (Mat.stack (Mat.identity.scale (prior.rotationError q).w - (prior.rotationError q).imag.skew)
          (Mat.zero : Mat 3 3 ℝ)).toMatrix := by
  rw [PosePrior.rotationJacobian, matrix_mul, Matrix.mul_assoc, lift_plus_jacobian, (unit_dot q).mp unit, one_smul]

-- On the side of the sphere where the scalar part has the sign `s`, the quotient is taken times `s`.
theorem rotation_error_signed (prior : PosePrior ℝ) (q : Quaternion ℝ) (s : ℝ) (sign : s = 1 ∨ s = -1)
    (side : 0 < s * (q * prior.rotation.conj).w) :
    prior.rotationError q = (q * prior.rotation.conj).scale s := by
  rw [PosePrior.rotationError, Quaternion.positiveProduct]
  generalize q * prior.rotation.conj = d at side
  rcases sign with rfl | rfl
  · have up : ¬ d.w < 0 := by linarith
    simp [if_neg up, Quaternion.scale]
  · have down : d.w < 0 := by linarith
    simp only [if_pos down]
    simp [Quaternion.scale]
    rfl

-- Where the vector part of the quotient and the shift stand in the deviation.
def turnRows : Matrix (Fin 6) (Fin 4) ℝ := Matrix.of fun i k => if i.val = k.val ∧ k.val < 3 then 1 else 0

def shiftRows : Matrix (Fin 6) (Fin 3) ℝ := Matrix.of fun i k => if i = Fin.natAdd 3 k then 1 else 0

theorem deviation_signed (prior : PosePrior ℝ) (q d : Quaternion ℝ) (p : Vec3 ℝ) (s : ℝ)
    (signed : prior.rotationError q = d.scale s) :
    (prior.deviation q p).get = ((2 * s) • turnRows) *ᵥ d.get + shiftRows *ᵥ (p - prior.position).get := by
  rw [PosePrior.deviation, signed]
  generalize p - prior.position = shift
  ext i
  fin_cases i <;>
    simp [turnRows, shiftRows, mulVec, dotProduct, Fin.sum_univ_four, Fin.sum_univ_three, Quaternion.get,
      Quaternion.scale, Quaternion.imag, Vec3.scale, Vec3.get, Vector.get] <;>
    ring

theorem turn_rows_tangent (d : Quaternion ℝ) (s : ℝ) :
    (2 * s) • turnRows * d.plusJacobian.toMatrix =
      (Mat.stack (Mat.identity.scale (d.scale s).w - (d.scale s).imag.skew) (Mat.zero : Mat 3 3 ℝ)).toMatrix := by
  rw [plus_jacobian_matrix]
  ext i k
  refine Fin.addCases (m := 3) (n := 3) (fun i => ?_) (fun i => ?_) i
  · rw [stack_top, matrix_sub, skew_matrix, matrix_scale, matrix_identity]
    fin_cases i <;> fin_cases k <;>
      simp [turnRows, Matrix.mul_apply, Fin.sum_univ_four, Quaternion.scale, Quaternion.imag] <;>
      ring
  · rw [stack_bottom, matrix_zero]
    fin_cases i <;> fin_cases k <;> simp [turnRows, Matrix.mul_apply, Fin.sum_univ_four]

theorem residual_get (prior : PosePrior ℝ) (q : Quaternion ℝ) (p : Vec3 ℝ) :
    (prior.residual q p).get = prior.sqrtInformation.toMatrix *ᵥ (prior.deviation q p).get :=
  matrix_mul_vec _ _

theorem prior_rotation_derivative (prior : PosePrior ℝ) (q : Quaternion ℝ) (p : Vec3 ℝ) (unit : q.IsUnit)
    (turned : (q * prior.rotation.conj).w ≠ 0) :
    HasJacobian (fun δ => (prior.residual (Quaternion.exp (Vec3.of δ) * q) p).get)
      ((prior.rotationJacobian q).toMatrix * q.plusJacobian.toMatrix) 0 := by
  obtain ⟨s, sign, side⟩ : ∃ s : ℝ, (s = 1 ∨ s = -1) ∧ 0 < s * (q * prior.rotation.conj).w := by
    rcases lt_or_gt_of_ne turned with down | up
    · exact ⟨-1, .inr rfl, by linarith⟩
    · exact ⟨1, .inl rfl, by linarith⟩
  have here := rotation_error_signed prior q s sign side
  rw [prior_rotation_tangent prior q unit, here, ← turn_rows_tangent]
  have turning := exp_product_jacobian (q * prior.rotation.conj)
  have weighted := jacobian_shift _ _ 0
    (prior.sqrtInformation.toMatrix *ᵥ shiftRows *ᵥ (p - prior.position).get)
    (jacobian_chain _ _ _ _ 0 (jacobian_linear (prior.sqrtInformation.toMatrix * (2 * s) • turnRows) _) turning)
  rw [Matrix.mul_assoc] at weighted
  refine jacobian_near _ _ _ _ weighted ?_
  have scalar : ContinuousAt (fun δ => s * (Quaternion.exp (Vec3.of δ) * (q * prior.rotation.conj)).w) 0 :=
    continuousAt_const.mul ((continuous_apply (3 : Fin 4)).continuousAt.comp (jacobian_continuous _ _ _ turning))
  have start : 0 < s * (Quaternion.exp (Vec3.of (0 : Fin 3 → ℝ)) * (q * prior.rotation.conj)).w := by
    rw [turn_still]
    exact side
  filter_upwards [scalar.eventually_const_lt start] with δ still
  rw [← product_assoc] at still
  rw [residual_get, deviation_signed prior _ _ p s (rotation_error_signed prior _ s sign still), product_assoc,
    mulVec_add, mulVec_mulVec]

theorem position_columns (prior : PosePrior ℝ) :
    prior.positionJacobian.toMatrix = prior.sqrtInformation.toMatrix * shiftRows := by
  ext i k
  simp [PosePrior.positionJacobian, Mat.columns, shiftRows, Matrix.mul_apply]

theorem prior_position_derivative (prior : PosePrior ℝ) (q : Quaternion ℝ) (x : Fin 3 → ℝ) :
    HasJacobian (fun y => (prior.residual q (Vec3.of y)).get) prior.positionJacobian.toMatrix x := by
  have fixed : prior.rotationError q = (prior.rotationError q).scale 1 := by simp [Quaternion.scale]
  have shifted := jacobian_shift _ _ x (prior.residual q Vec3.zero).get
    (jacobian_linear prior.positionJacobian.toMatrix x)
  refine jacobian_same _ _ _ _ shifted fun y => ?_
  simp only [residual_get, deviation_signed prior q _ _ 1 fixed, position_columns, space_get_sub, space_get_zero,
    space_get_of, mulVec_add, mulVec_sub, mulVec_zero, mulVec_mulVec]
  abel

theorem prior_rotation_exact (prior : PosePrior ℝ) (q : Quaternion ℝ) (p : Vec3 ℝ) (unit : q.IsUnit)
    (turned : (q * prior.rotation.conj).w ≠ 0) :
    prior.term.ExactAt .quaternion [q.toList, p.toList] 0 (prior.rotationJacobian q).entries := by
  have nearby : ∀ δ : Fin 3 → ℝ, prior.evaluate [(Quaternion.exp (Vec3.of δ) * q).toList, p.toList] (Buffers.plain 6) =
      .ok (true, ⟨List.ofFn (prior.residual (Quaternion.exp (Vec3.of δ) * q) p).get, none⟩) :=
    fun δ => prior_residuals prior _ p
  exact quaternion_exact prior.term _ 0 q _ _ rfl (Eventually.of_forall nearby)
    (prior_rotation_derivative prior q p unit turned)

theorem prior_position_exact (prior : PosePrior ℝ) (q : Quaternion ℝ) (p : Vec3 ℝ) :
    prior.term.ExactAt (.euclideanOf 3) [q.toList, p.toList] 1 prior.positionJacobian.entries := by
  have nearby : ∀ y : Fin 3 → ℝ, prior.evaluate [q.toList, List.ofFn y] (Buffers.plain 6) =
      .ok (true, ⟨List.ofFn (prior.residual q (Vec3.of y)).get, none⟩) := by
    intro y
    rw [space_cells]
    exact prior_residuals prior q (Vec3.of y)
  have held : [q.toList, p.toList][1]? = some (List.ofFn p.get) := congrArg some (space_cells p.get).symm
  exact identity_exact prior.term _ 1 p.get _ _ held (Eventually.of_forall nearby)
    (prior_position_derivative prior q p.get)

theorem prior_jacobians_exact (prior : PosePrior ℝ) (q : Quaternion ℝ) (p : Vec3 ℝ) (unit : q.IsUnit)
    (turned : (q * prior.rotation.conj).w ≠ 0) (buffers : Buffers ℝ) (slots : List (Option (List ℝ)))
    (asked : buffers.jacobians = some slots) (fits : prior.term.Fits buffers) :
    ∃ residuals out, prior.evaluate [q.toList, p.toList] buffers = .ok (true, ⟨residuals, some out⟩) ∧
      prior.term.WritesExact PosePrior.updates [q.toList, p.toList] slots out := by
  obtain ⟨_, done, _, filled⟩ := prior_evaluates prior q p buffers fits
  obtain ⟨out, rfl, written⟩ := filled slots asked
  have distinct : ((prior.jacobians q).map (·.block)).Nodup := (by decide : [0, 1].Nodup)
  refine ⟨_, out, done, rfl, ?_⟩
  intro block update buffer moves asked
  rcases block with _ | _ | block
  · cases moves
    exact ⟨_, fill_all_written _ slots out distinct written _ List.mem_cons_self buffer asked,
      prior_rotation_exact prior q p unit turned⟩
  · cases moves
    exact ⟨_, fill_all_written _ slots out distinct written _ (List.mem_cons_of_mem _ List.mem_cons_self) buffer asked,
      prior_position_exact prior q p⟩
  · cases moves

-- A prior whose quotient has a negative scalar part, with coupled coordinates.
theorem prior_jacobians_negative_side :
    ∃ residuals out, PosePrior.evaluate ⟨Quaternion.identity, Vec3.zero, Mat.of fun i j => if i ≤ j then 1 else 0⟩
        [(⟨3 / 5, 0, 0, -(4 / 5)⟩ : Quaternion ℝ).toList, (⟨1, 2, 3⟩ : Vec3 ℝ).toList]
        (Buffers.masked 6 [4, 3] [true, true]) = .ok (true, ⟨residuals, some out⟩) ∧
      CostTerm.WritesExact (PosePrior.term ⟨Quaternion.identity, Vec3.zero, Mat.of fun i j => if i ≤ j then 1 else 0⟩)
        PosePrior.updates [(⟨3 / 5, 0, 0, -(4 / 5)⟩ : Quaternion ℝ).toList, (⟨1, 2, 3⟩ : Vec3 ℝ).toList]
        [some (List.replicate 24 0), some (List.replicate 18 0)] out := by
  refine prior_jacobians_exact _ _ _ ?_ ?_ _ _ rfl ⟨?_, ?_⟩
  · rw [unit_dot, quaternion_dot]
    norm_num
  · rw [quaternion_product]
    simp [Quaternion.identity, Quaternion.conj]
  · exact le_of_eq rfl
  · intro slots asked block size listed
    cases asked
    rcases block with _ | _ | block
    · cases listed
      exact ⟨_, rfl, fun buffer same => by cases same; rfl⟩
    · cases listed
      exact ⟨_, rfl, fun buffer same => by cases same; rfl⟩
    · cases listed

end LandmarkMap
