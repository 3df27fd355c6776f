import Mathlib.Analysis.Calculus.Deriv.Polynomial
import LandmarkMap.Proofs.Solver.GradientRuns

set_option autoImplicit false

namespace LandmarkMap

open Filter Topology

-- What a central difference makes of a polynomial: no even term is left, and the cubic term is off by the
-- square of the step.
theorem central_slope (P : Polynomial ℝ) (low : P.natDegree ≤ 4) (h : ℝ) (moves : h ≠ 0) :
    (P.eval h - P.eval (-h)) / (2 * h) = P.coeff 1 + P.coeff 3 * h ^ 2 := by
  rw [Polynomial.eval_eq_sum_range' (Nat.lt_succ_of_le low), Polynomial.eval_eq_sum_range' (Nat.lt_succ_of_le low)]
  simp only [Finset.sum_range_succ, Finset.sum_range_zero]
  field_simp
  ring

theorem plain_slope (P : Polynomial ℝ) (low : P.natDegree ≤ 2) (h : ℝ) (moves : h ≠ 0) :
    (P.eval h - P.eval (-h)) / (2 * h) = P.coeff 1 := by
  have cubic : P.coeff 3 = 0 := Polynomial.coeff_eq_zero_of_natDegree_lt (Nat.lt_succ_of_le low)
  rw [central_slope P (low.trans (by omega)) h moves, cubic, zero_mul, add_zero]

-- The steps are chosen such that the errors of both differences cancel.
theorem extrapolated_slope (P : Polynomial ℝ) (low : P.natDegree ≤ 4) (h : ℝ) (moves : h ≠ 0) :
    ((P.eval (h / 2) - P.eval (-(h / 2))) / (2 * (h / 2)) * 4 - (P.eval h - P.eval (-h)) / (2 * h)) / 3 = P.coeff 1 := by
  rw [central_slope P low h moves, central_slope P low (h / 2) (div_ne_zero moves two_ne_zero)]
  ring

theorem slope_derivative (P : Polynomial ℝ) : HasDerivAt (fun t => P.eval t) (P.coeff 1) 0 := by
  have derivative := P.hasDerivAt 0
  rwa [← Polynomial.coeff_zero_eq_eval_zero, Polynomial.coeff_derivative, Nat.cast_zero, zero_add, zero_add,
    mul_one] at derivative

namespace GradientChecker

variable (c : GradientChecker ℝ) (parameters : List (List ℝ))

-- Wherever the residuals are defined along one direction of a block, they are these polynomials, and they are
-- defined near the start.
structure PolynomialAlong (block k : Nat) (P : Fin c.term.residualCount → Polynomial ℝ) : Prop where
  degree : ∀ i, (P i).natDegree ≤ if c.options.richardson then 4 else 2
  nearby : ∀ᶠ t in 𝓝 0, ∃ residuals, c.residualsAlong parameters block k t = .ok residuals
  values : ∀ t residuals, c.residualsAlong parameters block k t = .ok residuals →
    residuals = List.ofFn fun i => (P i).eval t

-- One residual along a direction, zero where it is not defined.
noncomputable def residualAlong (block k i : Nat) (t : ℝ) : ℝ :=
  ((c.residualsAlong parameters block k t).toOption.getD []).getD i 0

section Along

variable (block k : Nat) (P : Fin c.term.residualCount → Polynomial ℝ) (along : c.PolynomialAlong parameters block k P)

include along

theorem along_derivative (i : Fin c.term.residualCount) :
    HasDerivAt (c.residualAlong parameters block k i) ((P i).coeff 1) 0 := by
  apply (slope_derivative (P i)).congr_of_eventuallyEq
  filter_upwards [along.nearby] with t here
  obtain ⟨residuals, done⟩ := here
  rw [residualAlong, done, along.values t residuals done]
  simp [Except.toOption]

variable (x : List ℝ) (sizes : parameters.map List.length = c.term.blockSizes) (held : parameters[block]? = some x)

include sizes held

theorem difference_values (h : ℝ) (values : List ℝ) (done : c.centralDifference parameters block k h = .ok values) :
    values = List.ofFn fun i => ((P i).eval h - (P i).eval (-h)) / (2 * h) := by
  rw [central_difference c parameters sizes block x held, bind_ok] at done
  obtain ⟨forward, there, done⟩ := done
  obtain ⟨backward, back, done⟩ := (bind_ok _ _ _).mp done
  cases done
  rw [along.values h forward there, along.values (-h) backward back, zip_of_fn, real_two]

theorem column_exact (moves : c.options.stepSize ≠ 0) (column : List ℝ)
    (done : c.numericColumn parameters block k = .ok column) : column = List.ofFn fun i => (P i).coeff 1 := by
  have degree := along.degree
  rw [numericColumn] at done
  cases plain : c.options.richardson with
  | false =>
      rw [plain] at done degree
      rw [difference_values c parameters block k P along x sizes held _ _ done]
      exact congrArg List.ofFn (funext fun i => plain_slope (P i) (degree i) _ moves)
  | true =>
      rw [plain] at done degree
      obtain ⟨coarse, wide, done⟩ := (bind_ok _ _ _).mp done
      obtain ⟨fine, narrow, done⟩ := (bind_ok _ _ _).mp done
      cases done
      rw [difference_values c parameters block k P along x sizes held _ _ wide,
        difference_values c parameters block k P along x sizes held _ _ narrow, zip_of_fn]
      have three : (3.0 : ℝ) = 3 := by norm_num
      refine congrArg List.ofFn (funext fun i => ?_)
      rw [real_two, real_four, three]
      exact extrapolated_slope (P i) (degree i) _ moves

end Along

-- What the tolerance allows for.
def Agree (a b : ℝ) : Prop := |a - b| ≤ c.options.relativeTolerance * max (max |a| |b|) c.options.absoluteFloor

theorem within_larger (a b : Option ℝ) : c.within (largerError a b) = true ↔ c.within a = true ∧ c.within b = true := by
  cases a with
  | none => simp [largerError, within]
  | some first =>
      cases b with
      | none => simp [largerError, within]
      | some second => simp [largerError, within]

theorem within_fold {ι : Type} (error : ι → Option ℝ) (items : List ι) (top : Option ℝ) :
    c.within (items.foldl (fun top item => largerError top (error item)) top) = true ↔
      c.within top = true ∧ ∀ item ∈ items, c.within (error item) = true := by
  induction items generalizing top with
  | nil => simp
  | cons item rest ih => rw [List.foldl_cons, ih, within_larger, List.forall_mem_cons, and_assoc]

theorem entries_agree {m n : Nat} (a b : Mat m n ℝ) :
    (∀ pair ∈ a.entries.zip b.entries, c.Agree pair.1 pair.2) ↔ ∀ i j, c.Agree (a.get i j) (b.get i j) := by
  rw [entries_cells, entries_cells, List.zip, zip_of_fn]
  simp only [List.forall_mem_ofFn_iff]
  constructor
  · intro all i j
    have cell := all ⟨i.val * n + j.val, Mat.row_major_bound i j⟩
    rwa [cell_row, cell_column] at cell
  · intro all cell
    exact all _ _

theorem lists_agree (a b : List ℝ) {n : Nat} (count : a.length = n) (same : b.length = n) :
    (∀ pair ∈ a.zip b, c.Agree pair.1 pair.2) ↔ ∀ i : Fin n, c.Agree (a.getD i 0) (b.getD i 0) := by
  have paired : a.zip b = List.ofFn fun i : Fin n => (a.getD i 0, b.getD i 0) := by
    apply List.ext_getElem
    · rw [List.length_zip, count, same, Nat.min_self, List.length_ofFn]
    · intro i inside there
      have left := List.lt_length_left_of_zip inside
      have right := List.lt_length_right_of_zip inside
      simp [left, right]
  rw [paired, List.forall_mem_ofFn_iff]

section Verdict

variable (positive : 0 < c.options.absoluteFloor)

include positive

theorem within_error (a b : ℝ) : c.within (relativeError c.options.absoluteFloor a b) = true ↔ c.Agree a b := by
  have scale : 0 < max (max |a| |b|) c.options.absoluteFloor := lt_max_of_lt_right positive
  have error : relativeError c.options.absoluteFloor a b = some (|a - b| / max (max |a| |b|) c.options.absoluteFloor) := rfl
  rw [error, within, decide_eq_true_eq, Agree, div_le_iff₀ scale]

theorem within_largest (a b : List ℝ) :
    c.within (maxRelativeError c.options.absoluteFloor a b) = true ↔
      0 ≤ c.options.relativeTolerance ∧ ∀ pair ∈ a.zip b, c.Agree pair.1 pair.2 := by
  have start : c.within (some 0) = true ↔ 0 ≤ c.options.relativeTolerance := decide_eq_true_iff
  rw [maxRelativeError]
  let error (pair : ℝ × ℝ) : Option ℝ := relativeError c.options.absoluteFloor pair.1 pair.2
  refine (c.within_fold error (a.zip b) (some 0)).trans ?_
  rw [start]
  exact and_congr_right fun _ => forall₂_congr fun pair _ => c.within_error positive pair.1 pair.2

-- Two numbers agree only if there is some tolerance.
theorem agree_tolerance (a b : ℝ) (agree : c.Agree a b) : 0 ≤ c.options.relativeTolerance := by
  have scale : 0 < max (max |a| |b|) c.options.absoluteFloor := lt_max_of_lt_right positive
  exact nonneg_of_mul_nonneg_left ((abs_nonneg _).trans agree) scale

end Verdict

-- The Jacobian as written is carried over to the tangent space, and the measured one is the derivative
-- wherever differences are exact.
structure BlockChecks (full : Buffers ℝ) (block : Nat) (analytic numeric : Mat c.term.residualCount (c.localSize block) ℝ) :
    Prop where
  product : ∃ (x ambient written : List ℝ) (a : Mat c.term.residualCount x.length ℝ)
      (slope : Mat x.length (c.localSize block) ℝ),
    parameters[block]? = some x ∧ (full.jacobians.getD [])[block]? = some (some ambient) ∧
      c.updateCall parameters block = .ok (true, written) ∧ Mat.ofRowMajor _ _ ambient = .ok a ∧
      Mat.ofRowMajor _ _ written = .ok slope ∧ analytic.toMatrix = a.toMatrix * slope.toMatrix
  derivative : ∀ (k : Fin (c.localSize block)) (P : Fin c.term.residualCount → Polynomial ℝ),
    c.PolynomialAlong parameters block k P →
      ∀ i : Fin c.term.residualCount, HasDerivAt (c.residualAlong parameters block k i) (numeric.get i k) 0

-- What a report tells. Where there is nothing to compare, the largest error is zero.
structure Checks (full bare : Buffers ℝ) (report : GradientReport ℝ) : Prop where
  withJacobians : c.fullCall parameters = .ok (true, full)
  withoutJacobians : c.plainCall parameters = .ok (true, bare)
  residuals : report.residuals = full.residuals
  residualCounts : full.residuals.length = c.term.residualCount ∧ bare.residuals.length = c.term.residualCount
  blockCount : report.blocks.length = c.term.blockSizes.length
  blocks : ∀ (block : Nat) (g : BlockGradient ℝ), report.blocks[block]? = some g → ∃ analytic numeric,
    g = ⟨c.term.residualCount, c.localSize block, analytic, numeric⟩ ∧ c.BlockChecks parameters full block analytic numeric
  verdict : report.passed = true ↔
    (∀ g ∈ report.blocks, ∀ i k, c.Agree (g.analytic.get i k) (g.numeric.get i k)) ∧
      (∀ i : Fin c.term.residualCount, c.Agree (full.residuals.getD i 0) (bare.residuals.getD i 0)) ∧
      (c.term.residualCount = 0 → 0 ≤ c.options.relativeTolerance)

theorem passed_exactly (positive : 0 < c.options.absoluteFloor) (full bare : Buffers ℝ) (blocks : List (BlockGradient ℝ))
    (count : full.residuals.length = c.term.residualCount) (same : bare.residuals.length = c.term.residualCount) :
    (c.summary full bare.residuals blocks).passed = true ↔
      (∀ g ∈ blocks, ∀ i k, c.Agree (g.analytic.get i k) (g.numeric.get i k)) ∧
        (∀ i : Fin c.term.residualCount, c.Agree (full.residuals.getD i 0) (bare.residuals.getD i 0)) ∧
        (c.term.residualCount = 0 → 0 ≤ c.options.relativeTolerance) := by
  have entries : ∀ g : BlockGradient ℝ,
      c.within (maxRelativeError c.options.absoluteFloor g.analytic.entries g.numeric.entries) = true ↔
        0 ≤ c.options.relativeTolerance ∧ ∀ i k, c.Agree (g.analytic.get i k) (g.numeric.get i k) := by
    intro g
    rw [c.within_largest positive, entries_agree]
  change c.within (c.summary full bare.residuals blocks).maxError = true ↔ _
  rw [summary, within_fold, c.within_largest positive, c.lists_agree _ _ count same]
  simp only [entries]
  constructor
  · rintro ⟨⟨tolerant, alike⟩, agree⟩
    exact ⟨fun g member => (agree g member).2, alike, fun _ => tolerant⟩
  · rintro ⟨agree, alike, nothing⟩
    have tolerant : 0 ≤ c.options.relativeTolerance := by
      rcases Nat.eq_zero_or_pos c.term.residualCount with none | some
      · exact nothing none
      · exact c.agree_tolerance positive _ _ (alike ⟨0, some⟩)
    exact ⟨⟨tolerant, alike⟩, fun g member => ⟨tolerant, agree g member⟩⟩

theorem gradient_checks (sizes : parameters.map List.length = c.term.blockSizes)
    (moves : c.options.stepSize ≠ 0) (full : Buffers ℝ) (written : List (List ℝ)) (whole : c.term.Full full written)
    (block : Nat) (ambient : List ℝ) (filled : written[block]? = some ambient) (g : BlockGradient ℝ)
    (done : c.blockGradient parameters block ambient = .ok g) : ∃ analytic numeric,
      g = ⟨c.term.residualCount, c.localSize block, analytic, numeric⟩ ∧ c.BlockChecks parameters full block analytic numeric := by
  obtain ⟨x, held, fits⟩ := slot_block c parameters sizes full written whole block ambient filled
  have found : (fetch parameters block : Except (Fault ℝ) _) = .ok x := (fetch_ok _ _ _).mpr held
  rw [blockGradient, (lifted_fault_ok _ x).mpr found, ok_bind] at done
  obtain ⟨analytic, carried, done⟩ := (bind_ok _ _ _).mp done
  obtain ⟨columns, measured, done⟩ := (bind_ok _ _ _).mp done
  cases done
  refine ⟨_, _, rfl, ?_, fun k P along (i : Fin c.term.residualCount) => ?_⟩
  · rw [tangent_jacobian c parameters sizes block x held] at carried
    obtain ⟨a, read, carried⟩ := (bind_ok _ _ _).mp carried
    obtain ⟨update, called, carried⟩ := (bind_ok _ _ _).mp carried
    obtain ⟨slope, slopeRead, product⟩ := (bind_ok _ _ _).mp carried
    cases product
    refine ⟨x, ambient, update, a, slope, held, ?_, (accepted_ok _ _).mp called, (lifted_fault_ok _ _).mp read,
      (lifted_fault_ok _ _).mp slopeRead, matrix_mul a slope⟩
    rw [whole.slots, Option.getD_some, List.getElem?_map, filled, Option.map_some]
  · have count := ((map_m_ok _ _ _).mp measured).length_eq
    rw [List.length_range] at count
    have inside : k.val < columns.length := count ▸ k.isLt
    obtain ⟨direction, there, column⟩ := map_m_result _ _ _ measured k _ (List.getElem?_eq_getElem inside)
    rw [List.getElem?_range k.isLt] at there
    cases there
    have exact := column_exact c parameters block k P along x sizes held moves _ column
    have entry : (columns.getD k []).getD i 0 = (P i).coeff 1 := by
      simp [List.getElem?_eq_getElem inside, exact]
    rw [Mat.get_of, entry]
    exact along_derivative c parameters block k P along i

theorem probe_checks (keeps : c.KeepsSizes) (sizes : parameters.map List.length = c.term.blockSizes)
    (moves : c.options.stepSize ≠ 0) (positive : 0 < c.options.absoluteFloor)
    (report : GradientReport ℝ) (done : c.probe parameters = .ok report) :
    ∃ full bare, c.Checks parameters full bare report := by
  rw [probe_run c parameters sizes] at done
  obtain ⟨full, withJacobians, done⟩ := (bind_ok _ _ _).mp done
  obtain ⟨bare, without, done⟩ := (bind_ok _ _ _).mp done
  obtain ⟨blocks, measured, done⟩ := (bind_ok _ _ _).mp done
  cases done
  obtain ⟨written, whole⟩ := c.full_slots parameters sizes keeps.term full withJacobians
  have same := c.plain_length parameters sizes keeps.term bare without
  have count := ((map_m_ok _ _ _).mp measured).length_eq
  refine ⟨full, bare, (accepted_ok _ _).mp withJacobians, (accepted_ok _ _).mp without, rfl, ⟨whole.residuals, same⟩, ?_,
    fun block g there => ?_, c.passed_exactly positive full bare blocks whole.residuals same⟩
  · rw [whole.slots, Option.getD_some, List.length_zipIdx, List.length_map] at count
    have filled := congrArg List.length whole.sizes
    rw [List.length_map, List.length_map] at filled
    exact count.symm.trans filled
  · obtain ⟨⟨slot, other⟩, listed, gradient⟩ := map_m_result _ _ _ measured block g there
    rw [whole.slots, Option.getD_some, List.getElem?_zipIdx, List.getElem?_map] at listed
    obtain ⟨_, listed, same⟩ := Option.map_eq_some_iff.mp listed
    obtain ⟨ambient, filled, rfl⟩ := Option.map_eq_some_iff.mp listed
    cases same
    rw [Nat.zero_add] at gradient
    exact gradient_checks c parameters sizes moves full written whole block ambient filled g gradient

theorem gradient_check_exact (keeps : c.KeepsSizes) (sizes : parameters.map List.length = c.term.blockSizes)
    (moves : c.options.stepSize ≠ 0) (positive : 0 < c.options.absoluteFloor) :
    ((∀ call ∈ c.calls parameters, call = .ok true) →
      ∃ report full bare, c.probe parameters = .ok report ∧ c.Checks parameters full bare report) ∧
      ∀ earlier later, c.calls parameters = earlier ++ .ok false :: later → (∀ call ∈ earlier, call = .ok true) →
        c.probe parameters = .error (.error .evaluationFailed) := by
  have makes := probe_makes c parameters keeps sizes
  constructor
  · intro all
    obtain ⟨report, done⟩ := makes_answer _ _ makes all
    obtain ⟨full, bare, checks⟩ := probe_checks c parameters keeps sizes moves positive report done
    exact ⟨report, full, bare, done, checks⟩
  · intro earlier later split all
    exact makes_refused _ _ makes earlier later split all

-- A quadratic term whose evaluation fails above a limit.
noncomputable def trial (limit : Option ℝ) : GradientChecker ℝ :=
  ⟨(⟨0, 0, limit⟩ : Quadratic ℝ).term, [none], ⟨1 / 2, 1 / 10, 1, true⟩⟩

theorem trial_keeps_sizes (limit : Option ℝ) : (trial limit).KeepsSizes := by
  refine ⟨quadratic_keeps_sizes _, fun p listed => ?_⟩
  cases List.mem_singleton.mp listed

theorem trial_evaluates (a b : ℝ) : (trial none).plainCall [[a, b]] = .ok (true, ⟨[a * a, a * b], none⟩) := rfl

theorem trial_steps (k : Nat) (inside : k < 2) (t : ℝ) :
    ∃ a b, (trial none).shift [[3 / 2, -2]] 0 k t = .ok (true, [[a, b]]) := by
  match k, inside with
  | 0, _ => exact ⟨3 / 2 + t, -2 + 0, rfl⟩
  | 1, _ => exact ⟨3 / 2 + 0, -2 + t, rfl⟩

theorem trial_accepted : ∀ call ∈ (trial none).calls [[3 / 2, -2]], call = .ok true := by
  have stepped : ∀ k < 2, ∀ t, ∀ call ∈ (trial none).stepCalls [[3 / 2, -2]] 0 k t, call = .ok true := by
    intro k inside t
    obtain ⟨a, b, moved⟩ := trial_steps k inside t
    rw [stepCalls, moved, ok_bind, trial_evaluates]
    simp [accepts]
  have block : ∀ call ∈ (trial none).blockCalls [[3 / 2, -2]] 0, call = .ok true := by
    rw [blockCalls, List.forall_mem_cons]
    refine ⟨rfl, fun call member => ?_⟩
    obtain ⟨k, inside, member⟩ := List.mem_flatMap.mp member
    obtain ⟨t, _, member⟩ := List.mem_flatMap.mp member
    exact stepped k (List.mem_range.mp inside) t call member
  rw [calls, List.forall_mem_cons, List.forall_mem_cons]
  refine ⟨rfl, rfl, fun call member => ?_⟩
  obtain ⟨b, inside, member⟩ := List.mem_flatMap.mp member
  cases Nat.lt_one_iff.mp (List.mem_range.mp inside)
  exact block call member

theorem trial_polynomial :
    (trial none).PolynomialAlong [[3 / 2, -2]] 0 0
      (![(Polynomial.C (3 / 2) + Polynomial.X) ^ 2, Polynomial.C (-2) * (Polynomial.C (3 / 2) + Polynomial.X)] : Fin 2 → _) := by
  have along : ∀ t, (trial none).residualsAlong [[3 / 2, -2]] 0 0 t =
      .ok [(3 / 2 + t) * (3 / 2 + t), (3 / 2 + t) * (-2 + 0)] := fun t => rfl
  have square : ((Polynomial.C (3 / 2 : ℝ) + Polynomial.X) ^ 2).natDegree ≤ 4 := by compute_degree!
  have line : (Polynomial.C (-2) * (Polynomial.C (3 / 2 : ℝ) + Polynomial.X)).natDegree ≤ 4 := by compute_degree!
  refine ⟨Fin.forall_fin_two.mpr ⟨square, line⟩, Eventually.of_forall fun t => ⟨_, along t⟩, fun t residuals done => ?_⟩
  cases (along t).symm.trans done
  change _ = [Polynomial.eval t ((Polynomial.C (3 / 2) + Polynomial.X) ^ 2),
    Polynomial.eval t (Polynomial.C (-2) * (Polynomial.C (3 / 2) + Polynomial.X))]
  simp only [Polynomial.eval_pow, Polynomial.eval_mul, Polynomial.eval_add, Polynomial.eval_C, Polynomial.eval_X]
  rw [sq, add_zero, mul_comm (-2)]

theorem trial_checked :
    (∃ report full bare, (trial none).probe [[3 / 2, -2]] = .ok report ∧
        (trial none).Checks [[3 / 2, -2]] full bare report) ∧
      (∃ P, (trial none).PolynomialAlong [[3 / 2, -2]] 0 0 P) ∧
      (trial (some 1)).probe [[3 / 2, -2]] = .error (.error .evaluationFailed) := by
  obtain ⟨answers, _⟩ :=
    gradient_check_exact (trial none) [[3 / 2, -2]] (trial_keeps_sizes none) rfl one_half_pos.ne' one_pos
  obtain ⟨_, refuses⟩ :=
    gradient_check_exact (trial (some 1)) [[3 / 2, -2]] (trial_keeps_sizes _) rfl one_half_pos.ne' one_pos
  have refused : accepts ((trial (some 1)).fullCall [[3 / 2, -2]]) = .ok false := by
    have above : (1 : ℝ) < 3 / 2 := by norm_num
    change Prod.fst <$> (if decide ((1 : ℝ) < 3 / 2) = true then Except.ok (false, _) else _) = _
    rw [if_pos (decide_eq_true above)]
    rfl
  exact ⟨answers trial_accepted, ⟨_, trial_polynomial⟩, refuses [] _ (congrArg (· :: _) refused) fun _ none => by cases none⟩

-- A term without residuals, under a negative tolerance.
noncomputable def silentTrial : GradientChecker ℝ :=
  ⟨⟨0, [1], fun _ buffers => .ok (true, buffers)⟩, [none], ⟨1 / 2, -1, 1, true⟩⟩

theorem silent_keeps_sizes : silentTrial.KeepsSizes := by
  refine ⟨fun parameters before answer after _ done => ?_, fun p listed => ?_⟩
  · cases done
    rfl
  · cases List.mem_singleton.mp listed

-- The largest error is sought from zero on, and zero exceeds a negative tolerance. A block that is longer than declared
-- is evaluated and measured, but there is no product of its Jacobian with that of its update.
theorem empty_and_long_trials :
    ((∀ call ∈ silentTrial.calls [[0]], call = .ok true) ∧
        ∃ report, silentTrial.probe [[0]] = .ok report ∧ report.passed = false ∧ report.residuals = [] ∧
          ∀ g ∈ report.blocks, ∀ i k, silentTrial.Agree (g.analytic.get i k) (g.numeric.get i k)) ∧
      (∃ full bare, (trial none).fullCall [[1, 2, 3]] = .ok (true, full) ∧
        (trial none).plainCall [[1, 2, 3]] = .ok (true, bare)) ∧
      (∀ k < 2, ∃ column, (trial none).numericColumn [[1, 2, 3]] 0 k = .ok column) ∧
      (trial none).probe [[1, 2, 3]] = .error (.fault .productShape) := by
  have answered : ∃ report, silentTrial.probe [[0]] = .ok report := ⟨_, rfl⟩
  obtain ⟨report, done⟩ := answered
  obtain ⟨full, _, checks⟩ :=
    probe_checks silentTrial [[0]] silent_keeps_sizes rfl one_half_pos.ne' one_pos report done
  have intolerant : ¬ (0 : ℝ) ≤ -1 := by norm_num
  have fails : report.passed = false := by
    rw [Bool.eq_false_iff]
    intro passes
    obtain ⟨_, _, tolerant⟩ := checks.verdict.mp passes
    exact intolerant (tolerant rfl)
  have nothing : ∀ g ∈ report.blocks, ∀ i k, silentTrial.Agree (g.analytic.get i k) (g.numeric.get i k) := by
    intro g member i
    obtain ⟨block, _, there⟩ := List.getElem_of_mem member
    obtain ⟨_, _, rfl, _⟩ := checks.blocks block g (List.getElem?_eq_some_iff.mpr ⟨_, there⟩)
    exact i.elim0
  have measured : ∀ k < 2, ∃ column, (trial none).numericColumn [[1, 2, 3]] 0 k = .ok column := by
    intro k inside
    match k, inside with
    | 0, _ => exact ⟨_, rfl⟩
    | 1, _ => exact ⟨_, rfl⟩
  have calls : silentTrial.calls [[0]] = List.replicate 11 (.ok true) := rfl
  have bare : report.residuals = [] := checks.residuals.trans (List.eq_nil_of_length_eq_zero checks.residualCounts.1)
  refine ⟨⟨fun call member => ?_, report, done, fails, bare, nothing⟩, ⟨_, _, rfl, rfl⟩, measured, rfl⟩
  rw [calls] at member
  exact List.eq_of_mem_replicate member

end GradientChecker

end LandmarkMap
