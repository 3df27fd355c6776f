import LandmarkMap.Proofs.Geometry.FiniteFactors
import LandmarkMap.Proofs.Exact.Reals
import LandmarkMap.Proofs.Solver.RowMajor

set_option autoImplicit false

namespace LandmarkMap

open Double

-- What a choice of the larger of two scalars is relied on for: it is one of the two, and not below either of them that
-- is a number.
structure TakesLarger {α : Type} [Scalar α] (larger : α → α → α) : Prop where
  left : ∀ a b, a ≤ a → a ≤ larger a b
  right : ∀ a b, b ≤ b → b ≤ larger a b
  either : ∀ a b, larger a b = a ∨ larger a b = b

theorem real_takes_larger : TakesLarger (Scalar.max : ℝ → ℝ → ℝ) where
  left a b _ := le_max_left a b
  right a b _ := le_max_right a b
  either := max_choice

theorem double_takes_larger : TakesLarger (Scalar.max : Float → Float → Float) where
  left a b self := (larger_bounds a b).1 ((le_places a a).mp self).1
  right a b self := (larger_bounds a b).2.1 ((le_places b b).mp self).1
  either a b := (larger_bounds a b).2.2

section Entries

variable {α : Type} {m n : Nat}

theorem entry_listed (a : Mat m n α) (x : α) : x ∈ a.entries ↔ ∃ i j, a i j = x := by
  constructor
  · intro member
    rw [entries_cells] at member
    obtain ⟨cell, same⟩ := (List.mem_ofFn' _ _).mp member
    exact ⟨_, _, same⟩
  · rintro ⟨i, j, rfl⟩
    exact List.mem_of_getElem? (entries_cell a i j)

variable [Scalar α] {larger : α → α → α}

theorem largest_reached (choice : TakesLarger larger) (entries : List α) (top : α) :
    let largest := entries.foldl (fun top x => larger top (Scalar.abs x)) top
    largest = top ∨ ∃ x ∈ entries, largest = Scalar.abs x := by
  induction entries generalizing top with
  | nil => exact .inl rfl
  | cons first rest ih =>
      rcases ih (larger top (Scalar.abs first)) with same | ⟨x, member, same⟩
      · rcases choice.either top (Scalar.abs first) with start | next
        · exact .inl (same.trans start)
        · exact .inr ⟨first, List.mem_cons_self, same.trans next⟩
      · exact .inr ⟨x, List.mem_cons_of_mem first member, same⟩

theorem amax_reached (choice : TakesLarger larger) (a : Mat m n α) (i : Fin m) (j : Fin n) :
    ∃ k l, a.amax larger = Scalar.abs (a k l) := by
  have listed := entry_listed a
  rw [Mat.amax]
  cases same : a.entries with
  | nil =>
      rw [same] at listed
      exact (List.not_mem_nil ((listed _).mpr ⟨i, j, rfl⟩)).elim
  | cons first rest =>
      rw [same] at listed
      rcases largest_reached choice rest (Scalar.abs first) with start | ⟨x, member, top⟩
      · obtain ⟨k, l, here⟩ := (listed first).mp List.mem_cons_self
        exact ⟨k, l, start.trans (congrArg Scalar.abs here.symm)⟩
      · obtain ⟨k, l, here⟩ := (listed x).mp (List.mem_cons_of_mem first member)
        exact ⟨k, l, top.trans (congrArg Scalar.abs here.symm)⟩

end Entries

section Doubles

variable {m n : Nat} {larger : Float → Float → Float} (choice : TakesLarger larger) (a : Mat m n Float)

include choice

theorem largest_bounds (entries : List Float) (top : Float) :
    let largest := entries.foldl (fun top x => larger top (Scalar.abs x)) top
    (IsNumber top → top ≤ largest) ∧ ∀ x ∈ entries, IsNumber x → x.abs ≤ largest := by
  induction entries generalizing top with
  | nil => exact ⟨number_le_self top, fun x member => (List.not_mem_nil member).elim⟩
  | cons first rest ih =>
      obtain ⟨above, others⟩ := ih (larger top (Scalar.abs first))
      have counted : ∀ x, IsNumber x → x ≤ larger top first.abs →
          x ≤ (first :: rest).foldl (fun top x => larger top (Scalar.abs x)) top := by
        intro x number below
        have next : IsNumber (larger top first.abs) := ((le_places _ _).mp below).2.1
        exact number_le_trans _ _ _ below (above next)
      refine ⟨fun number => counted top number (choice.left _ _ (number_le_self top number)), fun x member number => ?_⟩
      rcases List.mem_cons.mp member with rfl | later
      · have size := abs_number x number
        exact counted _ size (choice.right _ _ (number_le_self _ size))
      · exact others x later number

-- The largest entry of a matrix bounds every entry that is a number.
theorem amax_bounds (i : Fin m) (j : Fin n) (number : IsNumber (a i j)) : (a i j).abs ≤ a.amax larger := by
  have listed := (entry_listed a _).mpr ⟨i, j, rfl⟩
  rw [Mat.amax]
  cases same : a.entries with
  | nil =>
      rw [same] at listed
      exact (List.not_mem_nil listed).elim
  | cons first rest =>
      rw [same] at listed
      obtain ⟨above, others⟩ := largest_bounds choice rest first.abs
      rcases List.mem_cons.mp listed with here | later
      · rw [here] at number ⊢
        exact above (abs_number first number)
      · exact others _ later number

end Doubles

end LandmarkMap
