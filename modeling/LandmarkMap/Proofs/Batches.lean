import LandmarkMap.Batch
import LandmarkMap.Proofs.Outcome

set_option autoImplicit false

namespace LandmarkMap

namespace Batch

variable {α ε τ ρ σ : Type}

theorem thread_count_positive (p : Parallelism) : 0 < p.threadCount :=
  Nat.lt_of_lt_of_le Nat.one_pos (Nat.le_max_left 1 _)

theorem least_length_positive (items threads : Nat) : 0 < leastLength items threads :=
  Nat.lt_of_lt_of_le Nat.one_pos (Nat.le_max_left 1 _)

theorem batches_reach_end (items length : Nat) (positive : 0 < length) :
    items ≤ (items + length - 1) / length * length := by
  have below := Nat.lt_div_mul_add positive (a := items + length - 1)
  omega

theorem batch_starts_inside (items length i : Nat) (positive : 0 < length) (there : i < (items + length - 1) / length) :
    i * length < items := by
  have below := Nat.mul_le_of_le_div length (i + 1) _ there
  rw [Nat.succ_mul] at below
  omega

-- Cutting a batch off at the end of the list changes nothing: there are no items past it.
theorem slice_of_split (items : List τ) (length i : Nat) :
    (⟨i * length, min length (items.length - i * length)⟩ : Batch).slice items =
      ((items.drop (i * length)).take length).zipIdx (i * length) := by
  have rest : items.length - i * length = (items.drop (i * length)).length := List.length_drop.symm
  rw [slice, rest]
  congr 1
  rcases Nat.le_total length (items.drop (i * length)).length with short | long
  · rw [Nat.min_eq_left short]
  · rw [Nat.min_eq_right long, List.take_length, List.take_of_length_le long]

theorem first_batches_cover (items : List τ) (length count : Nat) :
    (List.range count).flatMap (fun i =>
        (⟨i * length, min length (items.length - i * length)⟩ : Batch).slice items) =
      (items.take (count * length)).zipIdx := by
  induction count with
  | zero => simp
  | succ count ih =>
      rw [List.range_succ, List.flatMap_append, ih, List.flatMap_singleton, slice_of_split,
        Nat.succ_mul, List.take_add, List.zipIdx_append, Nat.zero_add]
      congr 1
      rcases Nat.le_total (count * length) items.length with inside | outside
      · rw [List.length_take, Nat.min_eq_left inside]
      · rw [List.drop_of_length_le outside, List.take_nil]
        rfl

theorem split_covers (items : List τ) (length : Nat) (positive : 0 < length) :
    (split items.length length).flatMap (fun b => b.slice items) = items.zipIdx := by
  rw [split, List.flatMap_map, first_batches_cover,
    List.take_of_length_le (batches_reach_end items.length length positive)]

theorem whole_slice (items : List τ) : (⟨0, items.length⟩ : Batch).slice items = items.zipIdx := by
  rw [slice, List.drop_zero, List.take_length]

theorem plan_covers (threads : Nat) (always : Bool) (items : List τ) (positive : 0 < threads) :
    ∃ batches, (plan items.length threads always : Except (Fault α) _) = .ok batches ∧
      batches.flatMap (fun b => b.slice items) = items.zipIdx := by
  rw [plan, require_bind _ _ _ positive]
  by_cases empty : items.length = 0
  · refine ⟨[], if_pos empty, ?_⟩
    rw [List.length_eq_zero_iff.mp empty]
    rfl
  · rw [if_neg empty]
    by_cases serial : runsSerially items.length threads always = true
    · refine ⟨[⟨0, items.length⟩], if_pos serial, ?_⟩
      rw [List.flatMap_singleton, whole_slice]
    · refine ⟨split items.length (leastLength items.length threads), if_neg serial, ?_⟩
      exact split_covers items _ (least_length_positive _ _)

theorem grouped_traversal (f : τ → Except ε ρ) (groups : List σ) (members : σ → List τ) :
    (groups.mapM fun g => (members g).mapM f) >>= (fun results => pure results.flatten) =
      (groups.flatMap members).mapM f := by
  induction groups with
  | nil => rfl
  | cons g rest ih =>
      rw [List.flatMap_cons, List.mapM_append, ← ih, List.mapM_cons]
      simp only [bind_assoc, pure_bind, List.flatten_cons]

end Batch

variable {α τ ρ : Type}

-- Whatever the number of threads, the result is that of one walk over the list, the first fault
-- included.
theorem map_batches_serial (threads : Nat) (always : Bool) (work : Nat → τ → Except (Fault α) ρ)
    (items : List τ) (positive : 0 < threads) :
    mapBatches threads always work items = items.zipIdx.mapM fun (item, i) => work i item := by
  obtain ⟨batches, planned, covered⟩ := Batch.plan_covers (α := α) threads always items positive
  rw [mapBatches, planned, ← covered]
  exact Batch.grouped_traversal (fun (item, i) => work i item) batches (fun b => b.slice items)

theorem map_batches_each (threads : Nat) (always : Bool) (f : τ → Except (Fault α) ρ)
    (items : List τ) (positive : 0 < threads) :
    mapBatches threads always (fun _ item => f item) items = items.mapM f := by
  rw [map_batches_serial _ _ _ _ positive]
  conv_rhs => rw [← List.zipIdx_map_fst 0 items, List.mapM_map]
  rfl

theorem map_batches_pointwise (p : Parallelism) (f : τ → Except (Fault α) ρ) (items : List τ) :
    mapBatches p.threadCount p.always (fun _ item => f item) items = items.mapM f :=
  map_batches_each _ _ f items (Batch.thread_count_positive p)

end LandmarkMap
