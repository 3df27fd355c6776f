import LandmarkMap.Proofs.Geometry.Cholesky
import LandmarkMap.Proofs.Geometry.LargestEntry
import LandmarkMap.Proofs.Solver.PosePrior

set_option autoImplicit false

section

open Matrix
open scoped Quaternion

namespace LandmarkMap

-- The weight of a prior, as the upper triangular root of the inverse of its covariance.
structure IsInverseRoot {n : Nat} (root covariance : Matrix (Fin n) (Fin n) ℝ) : Prop where
  upper : root.IsUpperTriangular
  diagonal : ∀ i, 0 < root i i
  product : rootᵀ * root = covariance⁻¹

variable {larger : ℝ → ℝ → ℝ}

theorem amax_zero {m n : Nat} (choice : TakesLarger larger) (a : Mat m n ℝ) (zeros : ∀ i j, a.get i j = 0) (i : Fin m)
    (j : Fin n) : a.amax larger = 0 := by
  obtain ⟨k, l, reached⟩ := amax_reached choice a i j
  rw [reached, real_abs]
  exact abs_eq_zero.mpr (zeros k l)

theorem symmetry_accepted (choice : TakesLarger larger) (covariance : Mat 6 6 ℝ)
    (symmetric : covariance.transpose = covariance) :
    (covariance - covariance.transpose).amax larger ≤
      PosePrior.symmetryTolerance * Scalar.max (covariance.amax larger) 1 := by
  have none : (covariance - covariance.transpose).amax larger = 0 := by
    refine amax_zero choice _ (fun i j => ?_) 0 0
    rw [symmetric, ← matrix_entry, matrix_sub, sub_self, Matrix.zero_apply]
  have tolerance : (0 : ℝ) ≤ PosePrior.symmetryTolerance := by
    have small : (1e-9 : ℝ) = 1 / 1000000000 := by norm_num
    rw [PosePrior.symmetryTolerance, small]
    norm_num
  rw [none]
  exact mul_nonneg tolerance (zero_le_one.trans (le_max_right _ _))

theorem symmetrised_inverse (covariance l : Mat 6 6 ℝ) (factor : IsCholesky covariance.toMatrix l.toMatrix) :
    ((l.inverseFromCholesky + l.inverseFromCholesky.transpose).scale 0.5).toMatrix = covariance.toMatrix⁻¹ := by
  have symmetric : (covariance.toMatrix⁻¹)ᵀ = covariance.toMatrix⁻¹ := factor.posDef.inv.isHermitian
  rw [matrix_scale, matrix_add, matrix_transpose, inverse_from_factor covariance.toMatrix l factor, symmetric, real_half,
    ← two_smul ℝ, smul_smul]
  norm_num

theorem root_of_information (covariance information l : Mat 6 6 ℝ) (inverse : information.toMatrix = covariance.toMatrix⁻¹)
    (factor : IsCholesky information.toMatrix l.toMatrix) :
    IsInverseRoot l.transpose.toMatrix covariance.toMatrix := by
  rw [matrix_transpose]
  refine ⟨fun i k above => factor.lower above, factor.diagonal, ?_⟩
  rw [transpose_transpose, factor.product, inverse]

theorem information_refused (covariance : Mat 6 6 ℝ) (failed : covariance.cholesky? = none) :
    PosePrior.sqrtInformationOf? larger covariance = none := by
  simp only [PosePrior.sqrtInformationOf?, failed, ite_self]

-- The second factorisation never fails: the inverse is positive definite as well.
theorem information_found (choice : TakesLarger larger) (covariance l : Mat 6 6 ℝ) (symmetric : covariance.transpose = covariance)
    (factored : covariance.cholesky? = some l) :
    ∃ root, PosePrior.sqrtInformationOf? larger covariance = some root ∧ IsInverseRoot root.toMatrix covariance.toMatrix := by
  have mirrored : covariance.toMatrixᵀ = covariance.toMatrix := by rw [← matrix_transpose, symmetric]
  have factor := cholesky_factor covariance l mirrored factored
  have inverse := symmetrised_inverse covariance l factor
  generalize kept : (l.inverseFromCholesky + l.inverseFromCholesky.transpose).scale 0.5 = information at inverse
  have definite : information.toMatrix.PosDef := inverse ▸ factor.posDef.inv
  obtain ⟨r, found⟩ := cholesky_found information definite
  refine ⟨r.transpose, ?_, root_of_information covariance information r inverse
    (cholesky_factor information r definite.isHermitian found)⟩
  simp only [PosePrior.sqrtInformationOf?, if_pos (symmetry_accepted choice covariance symmetric), factored, kept, found,
    Option.map_some]

theorem prior_exists (choice : TakesLarger larger) (rotation : Quaternion ℝ) (position : Vec3 ℝ) (covariance : Mat 6 6 ℝ)
    (symmetric : covariance.transpose = covariance) :
    (∃ prior, PosePrior.ofCovariance? larger rotation position covariance = .ok prior) ↔ covariance.toMatrix.PosDef := by
  cases factored : covariance.cholesky? with
  | none =>
      constructor
      · rintro ⟨prior, made⟩
        rw [PosePrior.ofCovariance?, information_refused covariance factored] at made
        cases made
      · intro definite
        obtain ⟨l, found⟩ := cholesky_found covariance definite
        cases factored.symm.trans found
  | some l =>
      obtain ⟨root, found, _⟩ := information_found choice covariance l symmetric factored
      constructor
      · intro _
        exact (cholesky_factor covariance l (by rw [← matrix_transpose, symmetric]) factored).posDef
      · intro _
        exact ⟨⟨rotation, position, root⟩, by rw [PosePrior.ofCovariance?, found]⟩

theorem prior_made (choice : TakesLarger larger) (rotation : Quaternion ℝ) (position : Vec3 ℝ) (covariance : Mat 6 6 ℝ)
    (prior : PosePrior ℝ)
    (symmetric : covariance.transpose = covariance)
    (made : PosePrior.ofCovariance? larger rotation position covariance = .ok prior) :
    prior.rotation = rotation ∧ prior.position = position ∧
      IsInverseRoot prior.sqrtInformation.toMatrix covariance.toMatrix := by
  cases factored : covariance.cholesky? with
  | none =>
      rw [PosePrior.ofCovariance?, information_refused covariance factored] at made
      cases made
  | some l =>
      obtain ⟨root, found, inverse⟩ := information_found choice covariance l symmetric factored
      rw [PosePrior.ofCovariance?, found] at made
      cases made
      exact ⟨rfl, rfl, inverse⟩

-- The quotient of two unit quaternions, of its two signs the one with a scalar part that is not negative.
noncomputable def signedQuotient (q r : ℍ[ℝ]) : ℍ[ℝ] := if (q * r⁻¹).re < 0 then -(q * r⁻¹) else q * r⁻¹

-- The error of a pose: twice the vector part of the quotient of the rotations, then the shift.
noncomputable def poseError (rotation q : Quaternion ℝ) (position p : Vec3 ℝ) : Fin (3 + 3) → ℝ :=
  Fin.append ((2 : ℝ) • imaginaryPart (signedQuotient q.hamilton rotation.hamilton)) (p.get - position.get)

theorem unit_norm (q : Quaternion ℝ) (unit : q.IsUnit) : ‖q.hamilton‖ = 1 := by
  have square := (unit_dot q).mp unit
  rw [dot_hamilton] at square
  exact (mul_self_eq_one_iff.mp square).resolve_right fun negative => by linarith [norm_nonneg q.hamilton]

theorem unit_inverse (q : Quaternion ℝ) (unit : q.IsUnit) : q.conj.hamilton = q.hamilton⁻¹ := by
  rw [conj_hamilton, Quaternion.inv_def, Quaternion.normSq_eq_norm_mul_self, unit_norm q unit, mul_one, inv_one, one_smul]

theorem rotation_error_hamilton (prior : PosePrior ℝ) (q : Quaternion ℝ) (unit : prior.rotation.IsUnit) :
    (prior.rotationError q).hamilton = signedQuotient q.hamilton prior.rotation.hamilton := by
  rw [signedQuotient, ← unit_inverse _ unit, ← product_hamilton, PosePrior.rotationError, Quaternion.positiveProduct]
  by_cases down : (q * prior.rotation.conj).w < 0
  · simp only [if_pos down]
    rw [if_pos (show (q * prior.rotation.conj).hamilton.re < 0 from down)]
    rfl
  · simp only [if_neg down]
    rw [if_neg (show ¬ (q * prior.rotation.conj).hamilton.re < 0 from down)]

theorem deviation_error (prior : PosePrior ℝ) (q : Quaternion ℝ) (p : Vec3 ℝ) (unit : prior.rotation.IsUnit) :
    (prior.deviation q p).get = poseError prior.rotation q prior.position p := by
  rw [poseError, ← rotation_error_hamilton prior q unit, hamilton_imaginary, PosePrior.deviation, ← space_get_sub]
  funext i
  refine Fin.addCases (m := 3) (n := 3) (fun i => ?_) (fun i => ?_) i
  · rw [Fin.append_left]
    fin_cases i <;> simp [Vector.get, Quaternion.imag, Vec3.get, Vec3.scale] <;> ring
  · rw [Fin.append_right]
    fin_cases i <;> rfl

theorem weighted_square (prior : PosePrior ℝ) (covariance : Matrix (Fin 6) (Fin 6) ℝ) (q : Quaternion ℝ) (p : Vec3 ℝ)
    (unit : prior.rotation.IsUnit) (root : IsInverseRoot prior.sqrtInformation.toMatrix covariance) :
    (prior.residual q p).get ⬝ᵥ (prior.residual q p).get =
      poseError prior.rotation q prior.position p ⬝ᵥ covariance⁻¹ *ᵥ poseError prior.rotation q prior.position p := by
  rw [residual_get, deviation_error prior q p unit, dotProduct_mulVec, vecMul_mulVec, ← dotProduct_mulVec, root.product]

theorem signed_still (q r : ℍ[ℝ]) : imaginaryPart (signedQuotient q r) = 0 ↔ imaginaryPart (q * r⁻¹) = 0 := by
  rw [signedQuotient]
  by_cases down : (q * r⁻¹).re < 0
  · rw [if_pos down, map_neg, neg_eq_zero]
  · rw [if_neg down]

-- Of unit length and without a vector part, a quaternion is one or minus one.
theorem unit_still (h : ℍ[ℝ]) (unit : ‖h‖ = 1) : imaginaryPart h = 0 ↔ h = 1 ∨ h = -1 := by
  constructor
  · intro still
    have real : h = (h.re : ℍ[ℝ]) := by
      ext
      · rfl
      · exact congrFun still 0
      · exact congrFun still 1
      · exact congrFun still 2
    rw [real, Quaternion.norm_coe, Real.norm_eq_abs] at unit
    rcases eq_or_eq_neg_of_abs_eq unit with up | down
    · left
      rw [real, up, Quaternion.coe_one]
    · right
      rw [real, down, Quaternion.coe_neg, Quaternion.coe_one]
  · rintro (rfl | rfl)
    · ext i
      fin_cases i <;> rfl
    · rw [map_neg, neg_eq_zero]
      ext i
      fin_cases i <;> rfl

theorem quotient_still (q r : Quaternion ℝ) (first : q.IsUnit) (second : r.IsUnit) :
    imaginaryPart (signedQuotient q.hamilton r.hamilton) = 0 ↔ q = r ∨ q = -r := by
  have length : ‖r.hamilton‖ = 1 := unit_norm r second
  have nonzero : r.hamilton ≠ 0 := norm_ne_zero_iff.mp (by rw [length]; exact one_ne_zero)
  have unit : ‖q.hamilton * r.hamilton⁻¹‖ = 1 := by
    rw [norm_mul, norm_inv, unit_norm q first, length, inv_one, mul_one]
  have negated : (-r).hamilton = -r.hamilton := rfl
  rw [signed_still, unit_still _ unit, mul_inv_eq_iff_eq_mul₀ nonzero, mul_inv_eq_iff_eq_mul₀ nonzero, one_mul, neg_one_mul,
    ← negated]
  exact or_congr ⟨hamilton_injective q r, congrArg _⟩ ⟨hamilton_injective q (-r), congrArg _⟩

theorem error_vanishes (rotation q : Quaternion ℝ) (position p : Vec3 ℝ) (first : rotation.IsUnit) (second : q.IsUnit) :
    poseError rotation q position p = 0 ↔ p = position ∧ (q = rotation ∨ q = -rotation) := by
  rw [← quotient_still q rotation second first, poseError]
  constructor
  · intro vanishes
    have turn : (2 : ℝ) • imaginaryPart (signedQuotient q.hamilton rotation.hamilton) = 0 := by
      funext i
      have entry := congrFun vanishes (Fin.castAdd 3 i)
      rwa [Fin.append_left] at entry
    have shift : p.get - position.get = 0 := by
      funext i
      have entry := congrFun vanishes (Fin.natAdd 3 i)
      rwa [Fin.append_right] at entry
    exact ⟨space_ext p position (sub_eq_zero.mp shift), (smul_eq_zero.mp turn).resolve_left two_ne_zero⟩
  · rintro ⟨rfl, still⟩
    rw [still, smul_zero, sub_self]
    funext i
    refine Fin.addCases (fun i => ?_) (fun i => ?_) i
    · rw [Fin.append_left]
      rfl
    · rw [Fin.append_right]
      rfl

theorem prior_mahalanobis (choice : TakesLarger larger) (rotation : Quaternion ℝ) (position : Vec3 ℝ) (covariance : Mat 6 6 ℝ)
    (symmetric : covariance.transpose = covariance) :
    ((∃ prior, PosePrior.ofCovariance? larger rotation position covariance = .ok prior) ↔ covariance.toMatrix.PosDef) ∧
      ∀ prior, PosePrior.ofCovariance? larger rotation position covariance = .ok prior →
        IsInverseRoot prior.sqrtInformation.toMatrix covariance.toMatrix ∧
          ∀ (q : Quaternion ℝ) (p : Vec3 ℝ) (buffers : Buffers ℝ), rotation.IsUnit → q.IsUnit →
            prior.term.Fits buffers → ∃ (residual : Vector ℝ 6) (filled : Option (List (Option (List ℝ)))),
              prior.evaluate [q.toList, p.toList] buffers =
                  .ok (true, ⟨residual.toList ++ buffers.residuals.drop 6, filled⟩) ∧
                residual.get ⬝ᵥ residual.get =
                  poseError rotation q position p ⬝ᵥ covariance.toMatrix⁻¹ *ᵥ poseError rotation q position p ∧
                (residual.get ⬝ᵥ residual.get = 0 ↔ p = position ∧ (q = rotation ∨ q = -rotation)) := by
  refine ⟨prior_exists choice rotation position covariance symmetric, fun prior made => ?_⟩
  obtain ⟨rfl, rfl, root⟩ := prior_made choice rotation position covariance prior symmetric made
  refine ⟨root, fun q p buffers unit second fits => ?_⟩
  obtain ⟨filled, done, _⟩ := prior_evaluates prior q p buffers fits
  have square := weighted_square prior covariance.toMatrix q p unit root
  refine ⟨prior.residual q p, filled, done, square, ?_⟩
  have definite := ((prior_exists choice prior.rotation prior.position covariance symmetric).mp ⟨prior, made⟩).inv
  rw [square, ← error_vanishes prior.rotation q prior.position p unit second]
  constructor
  · intro zero
    by_contra nonzero
    exact (definite.dotProduct_mulVec_pos nonzero).ne' zero
  · intro vanishes
    rw [vanishes, zero_dotProduct]

-- A covariance of four times the identity, and the pose of the prior by its opposite quaternion.
theorem prior_mahalanobis_opposite :
    ∃ prior, PosePrior.ofCovariance? Scalar.max Quaternion.identity ⟨1, 2, 3⟩ (Mat.identity.scale (4 : ℝ)) = .ok prior ∧
      ∃ (residual : Vector ℝ 6) (filled : Option (List (Option (List ℝ)))),
        prior.evaluate [(-Quaternion.identity : Quaternion ℝ).toList, (⟨1, 2, 3⟩ : Vec3 ℝ).toList] (Buffers.plain 6) =
            .ok (true, ⟨residual.toList ++ (Buffers.plain 6 : Buffers ℝ).residuals.drop 6, filled⟩) ∧
          residual.get ⬝ᵥ residual.get = 0 := by
  have symmetric : (Mat.identity.scale (4 : ℝ) : Mat 6 6 ℝ).transpose = Mat.identity.scale 4 := by
    apply matrix_ext
    rw [matrix_transpose, matrix_scale, matrix_identity, transpose_smul, transpose_one]
  have definite : (Mat.identity.scale (4 : ℝ) : Mat 6 6 ℝ).toMatrix.PosDef := by
    rw [matrix_scale, matrix_identity]
    exact Matrix.PosDef.one.smul four_pos
  obtain ⟨found, spec⟩ := prior_mahalanobis real_takes_larger Quaternion.identity ⟨1, 2, 3⟩ (Mat.identity.scale 4) symmetric
  obtain ⟨prior, made⟩ := found.mpr definite
  obtain ⟨residual, filled, done, _, zero⟩ :=
    (spec prior made).2 (-Quaternion.identity) ⟨1, 2, 3⟩ (Buffers.plain 6) unit_identity (unit_neg _ unit_identity)
      (plain_fits prior.term)
  exact ⟨prior, made, residual, filled, done, zero.mpr ⟨rfl, .inr rfl⟩⟩

end LandmarkMap

end
