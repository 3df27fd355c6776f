import LandmarkMap.Proofs.Solver.LandmarkMotion
import LandmarkMap.Proofs.Solver.Reprojection
import LandmarkMap.Proofs.Geometry.Poses

set_option autoImplicit false

namespace LandmarkMap

-- A block of unit norm.
def UnitBlock (x : List ℝ) : Prop := ∃ q : Quaternion ℝ, q.IsUnit ∧ x = q.toList

-- What a solver relies on: a zero update changes nothing, no update leaves the manifold, and the
-- Jacobian is the derivative of the update at zero, row by row.
structure Parameterization.Contract (p : Parameterization ℝ) (onManifold : List ℝ → Prop) : Prop where
  still : ∀ x out, onManifold x → out.length = p.globalSize → p.plus x (List.replicate p.localSize 0) out = .ok (true, x)
  stays : ∀ x delta out, onManifold x → delta.length = p.localSize → out.length = p.globalSize →
    ∃ moved, p.plus x delta out = .ok (true, moved) ∧ onManifold moved
  exact : ∀ x, onManifold x →
    ∃ (moved : (Fin p.localSize → ℝ) → Fin p.globalSize → ℝ) (slope : Matrix (Fin p.globalSize) (Fin p.localSize) ℝ)
      (written : List ℝ),
      (∀ δ out, out.length = p.globalSize → p.plus x (List.ofFn δ) out = .ok (true, List.ofFn (moved δ))) ∧
      HasJacobian moved slope 0 ∧
      (∀ buffer, buffer.length = p.globalSize * p.localSize → p.jacobian x buffer = .ok (true, written)) ∧
      written.length = p.globalSize * p.localSize ∧
      ∀ (i : Fin p.globalSize) (k : Fin p.localSize), written[i.val * p.localSize + k.val]? = some (slope i k)

-- How a block moves, and with which slope at the start.
structure Parameterization.Motion (p : Parameterization ℝ) (x : List ℝ)
    (moved : (Fin p.localSize → ℝ) → Fin p.globalSize → ℝ) (slope : Mat p.globalSize p.localSize ℝ) : Prop where
  plus : ∀ δ out, out.length = p.globalSize → p.plus x (List.ofFn δ) out = .ok (true, List.ofFn (moved δ))
  start : List.ofFn (moved 0) = x
  jacobian : ∀ buffer, buffer.length = p.globalSize * p.localSize → p.jacobian x buffer = .ok (true, slope.entries)
  derivative : HasJacobian moved slope.toMatrix 0

theorem motion_contract (p : Parameterization ℝ) (onManifold : List ℝ → Prop)
    (motions : ∀ x, onManifold x → ∃ moved slope, p.Motion x moved slope ∧ ∀ δ, onManifold (List.ofFn (moved δ))) :
    p.Contract onManifold := by
  refine ⟨fun x out on fits => ?_, fun x delta out on count fits => ?_, fun x on => ?_⟩
  · obtain ⟨moved, slope, motion, _⟩ := motions x on
    have zeros : List.replicate p.localSize (0 : ℝ) = List.ofFn (0 : Fin p.localSize → ℝ) := by
      rw [← List.ofFn_const]
      rfl
    rw [zeros, motion.plus 0 out fits, motion.start]
  · obtain ⟨moved, slope, motion, stays⟩ := motions x on
    obtain ⟨δ, rfl⟩ : ∃ δ : Fin p.localSize → ℝ, delta = List.ofFn δ := by
      rw [← count]
      exact ⟨delta.get, (List.ofFn_get delta).symm⟩
    exact ⟨_, motion.plus δ out fits, stays δ⟩
  · obtain ⟨moved, slope, motion, _⟩ := motions x on
    exact ⟨moved, slope.toMatrix, slope.entries, motion.plus, motion.derivative, motion.jacobian, entries_length slope,
      entries_cell slope⟩

theorem turned_motion (q : Quaternion ℝ) :
    Parameterization.quaternion.Motion q.toList (fun δ => (Quaternion.exp (Vec3.of δ) * q).get) q.plusJacobian := by
  refine ⟨fun δ out fits => ?_, ?_, fun buffer fits => quaternion_jacobian q buffer fits, exp_product_jacobian q⟩
  · exact quaternion_plus q δ out fits
  · exact congrArg Quaternion.toList (turn_still q)

theorem bearing_motion (q : Quaternion ℝ) (unit : q.IsUnit) :
    Parameterization.bearing.Motion q.toList (fun δ => (Bearing.plus ⟨q⟩ (Vec2.of δ)).rotation.get)
      (Bearing.plusJacobian ⟨q⟩) := by
  refine ⟨fun δ out fits => ?_, ?_, fun buffer fits => bearing_jacobian q unit buffer fits, bearing_product_jacobian q⟩
  · exact bearing_plus q unit δ out fits
  · exact congrArg Quaternion.toList (bearing_still q)

theorem shifted_motion {n : Nat} (x : Fin n → ℝ) :
    (Parameterization.euclideanOf n).Motion (List.ofFn x) (fun δ : Fin n → ℝ => x + δ) Mat.identity := by
  refine ⟨fun δ out fits => identity_plus x δ out fits, congrArg List.ofFn (add_zero x),
    fun buffer fits => identity_jacobian n _ buffer fits, ?_⟩
  have moved := jacobian_shift _ _ 0 x (jacobian_identity (0 : Fin n → ℝ))
  rw [← matrix_identity] at moved
  exact jacobian_same _ _ _ _ moved fun δ => add_comm x δ

theorem quaternion_contract : Parameterization.quaternion.Contract UnitBlock := by
  apply motion_contract
  rintro x ⟨q, unit, rfl⟩
  exact ⟨_, _, turned_motion q, fun δ => ⟨_, unit_product _ _ (unit_exp (Vec3.of δ)) unit, rfl⟩⟩

theorem bearing_contract : Parameterization.bearing.Contract UnitBlock := by
  apply motion_contract
  rintro x ⟨q, unit, rfl⟩
  exact ⟨_, _, bearing_motion q unit, fun δ => ⟨_, unit_product _ _ (unit_exp (Bearing.tangent ⟨q⟩ (Vec2.of δ))) unit, rfl⟩⟩

theorem euclidean_contract (n : Nat) : (Parameterization.euclideanOf n).Contract (·.length = n) := by
  apply motion_contract
  intro x size
  obtain ⟨f, rfl⟩ : ∃ f : Fin n → ℝ, x = List.ofFn f := by
    rw [← size]
    exact ⟨x.get, (List.ofFn_get x).symm⟩
  exact ⟨_, _, shifted_motion f, fun δ => List.length_ofFn⟩

-- The opposite turn leads back.
theorem turned_back (q : Quaternion ℝ) (v : Vec3 ℝ) : Quaternion.exp (-v) * (Quaternion.exp v * q) = q := by
  rw [exp_neg, ← product_assoc, conj_product _ (unit_exp v), identity_product]

theorem quaternion_returns (x delta out next : List ℝ) (block : x.length = 4) (count : delta.length = 3)
    (fits : out.length = 4) (room : next.length = 4) :
    ∃ moved, Parameterization.quaternion.plus x delta out = .ok (true, moved) ∧
      Parameterization.quaternion.plus moved (delta.map (-·)) next = .ok (true, x) := by
  obtain ⟨⟨q, rfl⟩, _⟩ := four_cells x block
  obtain ⟨v, rfl⟩ := three_cells delta count
  refine ⟨_, quaternion_plus q v.get out fits, ?_⟩
  have back := quaternion_plus (Quaternion.exp v * q) (-v).get next room
  rw [space_of_get, turned_back] at back
  exact back

section Refused

variable {α : Type} [Scalar α]

-- An update that is refused leaves the output block as it was.
def Parameterization.RefusesClean (p : Parameterization α) : Prop :=
  ∀ x delta out after, p.plus x delta out = .ok (false, after) → after = out

omit [Scalar α] in
theorem checked_refuses (refused : Prop) [Decidable refused] (out after : List α)
    (accepted : Except (Fault α) (Bool × List α)) (accepts : accepted ≠ .ok (false, after))
    (done : (if refused then return (false, out) else accepted) = .ok (false, after)) : after = out := by
  split at done
  · cases done
    rfl
  · exact absurd done accepts

theorem quaternion_refuses : (Parameterization.quaternion : Parameterization α).RefusesClean := by
  intro x delta out after done
  obtain ⟨q, _, done⟩ := (bind_ok _ _ _).mp done
  obtain ⟨first, _, done⟩ := (bind_ok _ _ _).mp done
  obtain ⟨second, _, done⟩ := (bind_ok _ _ _).mp done
  obtain ⟨third, _, done⟩ := (bind_ok _ _ _).mp done
  refine checked_refuses _ _ _ _ (fun accepted => ?_) done
  obtain ⟨_, _, same⟩ := (bind_ok _ _ _).mp accepted
  cases same

theorem bearing_refuses : (Parameterization.bearing : Parameterization α).RefusesClean := by
  intro x delta out after done
  obtain ⟨first, _, done⟩ := (bind_ok _ _ _).mp done
  obtain ⟨second, _, done⟩ := (bind_ok _ _ _).mp done
  refine checked_refuses _ _ _ _ (fun accepted => ?_) done
  obtain ⟨_, _, accepted⟩ := (bind_ok _ _ _).mp accepted
  obtain ⟨_, _, same⟩ := (bind_ok _ _ _).mp accepted
  cases same

theorem euclidean_refuses (n : Nat) : (Parameterization.euclideanOf n : Parameterization α).RefusesClean := by
  intro x delta out after done
  cases done

end Refused

theorem parameterizations_keep_contract :
    Parameterization.quaternion.Contract UnitBlock ∧ Parameterization.bearing.Contract UnitBlock ∧
      (∀ n, 0 < n → ∃ p, Parameterization.euclidean n = .ok p ∧ p.globalSize = n ∧ p.Contract (·.length = n)) ∧
      (∀ x delta out next : List ℝ, x.length = 4 → delta.length = 3 → out.length = 4 → next.length = 4 →
        ∃ moved, Parameterization.quaternion.plus x delta out = .ok (true, moved) ∧
          Parameterization.quaternion.plus moved (delta.map (-·)) next = .ok (true, x)) ∧
      ∀ (α : Type) [Scalar α], (Parameterization.quaternion : Parameterization α).RefusesClean ∧
        (Parameterization.bearing : Parameterization α).RefusesClean ∧
        ∀ n p, (Parameterization.euclidean n : Except (Fault α) (Parameterization α)) = .ok p → p.RefusesClean := by
  refine ⟨quaternion_contract, bearing_contract, fun n some => ?_, quaternion_returns, fun α _ => ?_⟩
  · exact ⟨_, require_bind _ _ _ some, rfl, euclidean_contract n⟩
  · refine ⟨quaternion_refuses, bearing_refuses, fun n p made => ?_⟩
    obtain ⟨_, done⟩ := (require_bind_ok _ _ _ _).mp made
    cases done
    exact euclidean_refuses n

theorem half_turn_block_updates :
    UnitBlock [1, 0, 0, 0] ∧
      (Parameterization.quaternion : Parameterization ℝ).plus [1, 0, 0, 0] [0, 0, 0] [5, 6, 7, 8] = .ok (true, [1, 0, 0, 0]) ∧
      ∃ moved, (Parameterization.bearing : Parameterization ℝ).plus [1, 0, 0, 0] [2, 3] [5, 6, 7, 8] = .ok (true, moved) ∧
        UnitBlock moved := by
  obtain ⟨quaternion, bearing, _⟩ := parameterizations_keep_contract
  have unit : UnitBlock [1, 0, 0, 0] := by
    refine ⟨⟨1, 0, 0, 0⟩, ?_, rfl⟩
    rw [unit_dot, quaternion_dot]
    norm_num
  exact ⟨unit, quaternion.still _ [5, 6, 7, 8] unit rfl, bearing.stays _ [2, 3] [5, 6, 7, 8] unit rfl rfl⟩

end LandmarkMap
