import LandmarkMap.Proofs.DoubleShapes
import LandmarkMap.Proofs.Geometry.Cholesky

set_option autoImplicit false

namespace LandmarkMap

open Double

section Below

variable {α : Type} {n : Nat}

-- Equal on the diagonal and below it.
def Mat.SameBelow (a b : Mat n n α) : Prop := ∀ i j, j ≤ i → a i j = b i j

variable [Scalar α] (a b : Mat n n α) (j : Fin n)

theorem reduced_same_below (same : a.SameBelow b) : (a.reduceColumn j).SameBelow (b.reduceColumn j) := by
  intro i c under
  rw [Mat.reduceColumn, Mat.reduceColumn, Mat.get_of, Mat.get_of]
  by_cases here : c = j ∧ j ≤ i
  · have step : (fun (x : α) k => if k < j then x + -(a j k) * a i k else x) =
        fun x k => if k < j then x + -(b j k) * b i k else x := by
      funext x k
      by_cases left : k < j
      · rw [if_pos left, if_pos left, same j k left.le, same i k (left.le.trans here.2)]
      · rw [if_neg left, if_neg left]
    rw [if_pos here, if_pos here, step, same i j here.2]
  · rw [if_neg here, if_neg here, same i c under]

theorem scaled_same_below (same : a.SameBelow b) : Option.Rel Mat.SameBelow (a.scaleColumn? j) (b.scaleColumn? j) := by
  rw [Mat.scaleColumn?, Mat.scaleColumn?, same j j le_rfl]
  by_cases positive : 0 < b j j
  · rw [if_pos positive, if_pos positive]
    refine .some fun i c under => ?_
    rw [Mat.get_of, Mat.get_of, same i c under]
  · rw [if_neg positive, if_neg positive]
    exact .none

theorem lowered_same_below (s t : Option (Mat n n α)) (held : Option.Rel Mat.SameBelow s t) :
    (s.map fun a => Mat.of fun i j => if j ≤ i then a i j else 0) =
      t.map fun a => Mat.of fun i j => if j ≤ i then a i j else 0 := by
  cases held with
  | none => rfl
  | some same =>
      rw [Option.map_some, Option.map_some, Option.some_inj]
      apply Mat.ext_get
      intro i j
      rw [Mat.get_of, Mat.get_of]
      by_cases under : j ≤ i
      · rw [if_pos under, if_pos under, same i j under]
      · rw [if_neg under, if_neg under]

-- The factor reads nothing above the diagonal.
theorem factor_same_below (same : a.SameBelow b) : a.cholesky? = b.cholesky? := by
  refine lowered_same_below _ _ (fold_related n _ (Option.Rel Mat.SameBelow) (some a) (some b) (.some same) ?_)
  intro j s t held
  cases held with
  | none => exact .none
  | some held => exact scaled_same_below _ _ j (reduced_same_below _ _ j held)

end Below

variable {n : Nat} (a b l : Mat n n Float) (j : Fin n)

theorem reduction_finite (i : Fin n) (start : Float)
    (finite : (Fin.foldl n (fun x k => if k < j then x + -(b j k) * b i k else x) start).isFinite = true) :
    start.isFinite = true := by
  refine fold_invariant n _ (fun _ x => x.isFinite = true → start.isFinite = true) start id ?_ finite
  intro k x sofar
  by_cases left : k < j
  · rw [if_pos left]
    exact fun summed => sofar (finite_summand _ _ summed)
  · rwa [if_neg left]

-- What is taken off a pivot are squares, so a pivot that stays positive has met no infinite factor.
theorem pivot_positive (start : Float)
    (positive : 0 < Fin.foldl n (fun x k => if k < j then x + -(b j k) * b j k else x) start) :
    0 < start ∧ ∀ k < j, (b j k).isFinite = true := by
  have taken : 0 < start ∧ ∀ k : Fin n, k.val < n → k < j → (b j k).isFinite = true := by
    refine fold_invariant n _ (fun m x => 0 < x → 0 < start ∧ ∀ k : Fin n, k.val < m → k < j → (b j k).isFinite = true)
      start (fun now => ⟨now, fun k early => absurd early (Nat.not_lt_zero _)⟩) ?_ positive
    intro k x sofar now
    obtain ⟨before, here⟩ : 0 < x ∧ (k < j → (b j k).isFinite = true) := by
      by_cases left : k < j
      · rw [if_pos left] at now
        obtain ⟨before, factor⟩ := positive_less_square _ _ now
        exact ⟨before, fun _ => factor⟩
      · rw [if_neg left] at now
        exact ⟨now, fun under => absurd under left⟩
    obtain ⟨started, others⟩ := sofar before
    refine ⟨started, fun i early under => ?_⟩
    rcases (Nat.lt_succ_iff.mp early).eq_or_lt with same | earlier
    · obtain rfl : i = k := Fin.ext same
      exact here under
    · exact others i earlier under
  exact ⟨taken.1, fun k under => taken.2 k k.isLt under⟩

-- After `j` columns an entry of the factor that is finite stands for one that was finite, and only an infinite
-- root stands for a pivot that was not.
structure Inspected (j : Nat) : Prop where
  untouched : ∀ i c : Fin n, j ≤ c.val → b i c = a i c
  below : ∀ i c : Fin n, c.val < j → c < i → (b i c).isFinite = true → (a i c).isFinite = true
  rows : ∀ c k : Fin n, c.val < j → k < c → (b c k).isFinite = true
  diagonal : ∀ c : Fin n, c.val < j → 0 < a c c ∧ ((a c c).isFinite = true ∨ shape (b c c) = .infinite .positive)

theorem column_outcome (c : Mat n n Float) (done : (b.reduceColumn j).scaleColumn? j = some c) :
    0 < (b.reduceColumn j).get j j ∧ c j j = ((b.reduceColumn j).get j j).sqrt ∧
      (∀ i, j < i → c i j = (b.reduceColumn j).get i j / ((b.reduceColumn j).get j j).sqrt) ∧
      ∀ i k, k ≠ j → c i k = b i k := by
  rw [Mat.scaleColumn?] at done
  split_ifs at done with positive
  cases done
  refine ⟨positive, ?_, fun i under => ?_, fun i k apart => ?_⟩
  · rw [Mat.get_of, if_neg fun both => lt_irrefl j both.2, if_pos ⟨rfl, rfl⟩]
    rfl
  · rw [Mat.get_of, if_pos ⟨rfl, under⟩]
    rfl
  · rw [Mat.get_of, if_neg fun both => apart both.1, if_neg fun both => apart both.1, Mat.reduceColumn, Mat.get_of,
      if_neg fun both => apart both.1]

theorem column_inspected (c : Mat n n Float) (before : Inspected a b j)
    (done : (b.reduceColumn j).scaleColumn? j = some c) : Inspected a c (j + 1) := by
  obtain ⟨positive, top, under, other⟩ := column_outcome b j c done
  have reduced : ∀ i, j ≤ i → (b.reduceColumn j).get i j =
      Fin.foldl n (fun x k => if k < j then x + -(b j k) * b i k else x) (a i j) := by
    intro i below
    rw [Mat.reduceColumn, Mat.get_of, if_pos ⟨rfl, below⟩, before.untouched i j le_rfl]
  have started := positive
  rw [reduced j le_rfl] at started
  obtain ⟨pivot, row⟩ := pivot_positive b j _ started
  constructor
  · intro i k late
    have apart : k ≠ j := fun here => absurd (here ▸ late) (Nat.not_succ_le_self _)
    rw [other i k apart]
    exact before.untouched i k (Nat.le_of_succ_le late)
  · intro i k early below finite
    rcases (Nat.lt_succ_iff.mp early).eq_or_lt with here | earlier
    · obtain rfl : k = j := Fin.ext here
      rw [under i below, reduced i below.le] at finite
      exact reduction_finite b k i _ (finite_dividend _ _ finite)
    · rw [other i k (Fin.ne_of_lt earlier)] at finite
      exact before.below i k earlier below finite
  · intro k i early left
    rw [other k i (Fin.ne_of_lt (lt_of_lt_of_le left (Nat.lt_succ_iff.mp early)))]
    rcases (Nat.lt_succ_iff.mp early).eq_or_lt with here | earlier
    · obtain rfl : k = j := Fin.ext here
      exact row i left
    · exact before.rows k i earlier left
  · intro k early
    rcases (Nat.lt_succ_iff.mp early).eq_or_lt with here | earlier
    · obtain rfl : k = j := Fin.ext here
      refine ⟨pivot, ?_⟩
      rw [top]
      cases finite : ((b.reduceColumn k).get k k).isFinite with
      | true =>
          rw [reduced k le_rfl] at finite
          exact .inl (reduction_finite b k k _ finite)
      | false => exact .inr (infinite_root _ positive finite)
    · rw [other k k (Fin.ne_of_lt earlier)]
      exact before.diagonal k earlier

-- A factor of doubles is found only where all entries below the diagonal are finite.
theorem found_factor (found : a.cholesky? = some l) :
    (∀ i j : Fin n, j < i → (a i j).isFinite = true) ∧
      ∀ j : Fin n, 0 < a j j ∧ ((a j j).isFinite = true ∨ shape (l j j) = .infinite .positive) := by
  obtain ⟨b, ran, rfl⟩ := Option.map_eq_some_iff.mp found
  have loop := fold_invariant n
    (fun (state : Option (Mat n n Float)) j => state.bind fun b => (b.reduceColumn j).scaleColumn? j)
    (fun j state => ∀ b, state = some b → Inspected a b j) (some a) ?_ ?_
  · obtain ⟨_, below, rows, diagonal⟩ := loop b ran
    refine ⟨fun i j under => below i j j.isLt under (rows i j i.isLt under), fun j => ?_⟩
    rw [Mat.get_of, if_pos le_rfl]
    exact diagonal j j.isLt
  · intro b same
    cases same
    exact ⟨fun _ _ _ => rfl, fun _ _ early => absurd early (Nat.not_lt_zero _),
      fun _ _ early => absurd early (Nat.not_lt_zero _), fun _ early => absurd early (Nat.not_lt_zero _)⟩
  · intro j state sofar c done
    obtain ⟨b, reached, stepped⟩ := Option.bind_eq_some_iff.mp done
    exact column_inspected a b j c (sofar b reached) stepped

-- Division by an infinite root leaves nothing of the entry on the diagonal of the inverse.
theorem infinite_root_inverse (infinite : shape (l j j) = .infinite .positive) :
    (shape (l.inverseFromCholesky j j)).isVoid = true := by
  rw [Mat.inverseFromCholesky, Mat.get_of, vector_of_get, Mat.solveLowerTranspose]
  refine fold_back_invariant n _ (fun m (x : Vector Float n) => m ≤ j.val → (shape (x.get j)).isVoid = true) _
    (fun never => absurd j.isLt (Nat.not_lt.mpr never)) ?_ (Nat.zero_le _)
  intro i x sofar early
  rw [vector_set_get]
  rcases early.eq_or_lt with here | earlier
  · obtain rfl : i = j := Fin.ext here
    rw [Function.update_self]
    exact quotient_of_infinite _ _ infinite
  · rw [Function.update_of_ne (Fin.ne_of_gt earlier)]
    exact sofar earlier

-- The inverse is factored once more, which no infinite entry on the diagonal survives.
theorem factored_twice_finite (half : Float) (root : Mat n n Float) (found : a.cholesky? = some l)
    (again : ((l.inverseFromCholesky + l.inverseFromCholesky.transpose).scale half).cholesky? = some root) :
    ∀ i j : Fin n, j ≤ i → (a i j).isFinite = true := by
  obtain ⟨below, diagonal⟩ := found_factor a l found
  intro i j under
  rcases under.eq_or_lt with rfl | strict
  · rcases (diagonal j).2 with finite | infinite
    · exact finite
    · have positive := ((found_factor _ root again).2 j).1
      have entry : ((l.inverseFromCholesky + l.inverseFromCholesky.transpose).scale half) j j =
          (l.inverseFromCholesky j j + l.inverseFromCholesky j j) * half := by
        rw [Mat.scale, Mat.get_of]
        change (Mat.of _).get j j * half = _
        rw [Mat.get_of, Mat.transpose, Mat.get_of]
      rw [entry] at positive
      exact absurd positive (void_half_sum _ half (infinite_root_inverse l j infinite))
  · exact below i j strict

end LandmarkMap
