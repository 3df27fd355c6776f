import Mathlib.Data.List.Chain
import Mathlib.Data.List.Range
import Mathlib.Order.Bounds.Basic
import LandmarkMap.Proofs.Batches

set_option autoImplicit false

namespace LandmarkMap

namespace Batch

variable {α : Type}

def positions (b : Batch) : List Nat := List.range' b.first b.length

-- The positions of some items, cut into ranges of one length, of which the last may be shorter.
structure Partitions (items threads length : Nat) (batches : List Batch) : Prop where
  nonempty : ∀ b ∈ batches, 0 < b.length
  ascending : batches.Pairwise fun b c => b.first < c.first
  consecutive : batches.IsChain fun b c => c.first = b.first + b.length
  covers : batches.flatMap positions = List.range items
  few : batches.length ≤ threads
  full : ∀ b ∈ batches.dropLast, b.length = length
  bounded : ∀ b ∈ batches, b.length ≤ length

-- One batch per thread is enough for exactly the lengths that hold all items.
theorem batch_count (items threads length : Nat) (positive : 0 < length) :
    (items + length - 1) / length ≤ threads ↔ items ≤ threads * length := by
  rw [Nat.div_le_iff_le_mul_add_pred positive, Nat.mul_comm]
  omega

theorem least_length_holds (items threads : Nat) (positive : 0 < threads) :
    IsLeast {length | 0 < length ∧ items ≤ threads * length} (leastLength items threads) := by
  constructor
  · refine ⟨least_length_positive items threads, ?_⟩
    calc items ≤ (items + threads - 1) / threads * threads := batches_reach_end items threads positive
      _ = threads * ((items + threads - 1) / threads) := Nat.mul_comm _ _
      _ ≤ threads * leastLength items threads := Nat.mul_le_mul_left threads (Nat.le_max_right _ _)
  · rintro length ⟨some, holds⟩
    refine Nat.max_le.mpr ⟨some, (batch_count items length threads positive).mpr ?_⟩
    rwa [Nat.mul_comm]

section Split

variable (items length : Nat) (positive : 0 < length)

def piece (items length i : Nat) : Batch := ⟨i * length, min length (items - i * length)⟩

theorem split_pieces : split items length = (List.range ((items + length - 1) / length)).map (piece items length) := rfl

theorem split_bounded (b : Batch) (member : b ∈ split items length) : b.length ≤ length := by
  obtain ⟨i, _, rfl⟩ := List.mem_map.mp member
  exact Nat.min_le_left _ _

include positive

-- Only past the last batch do the items end.
theorem earlier_piece_full (i : Nat) (earlier : i + 1 < (items + length - 1) / length) :
    (piece items length i).length = length := by
  have next := batch_starts_inside items length (i + 1) positive earlier
  rw [Nat.succ_mul] at next
  exact Nat.min_eq_left (by omega)

theorem split_nonempty (b : Batch) (member : b ∈ split items length) : 0 < b.length := by
  obtain ⟨i, inside, rfl⟩ := List.mem_map.mp member
  have first := batch_starts_inside items length i positive (List.mem_range.mp inside)
  exact Nat.lt_min.mpr ⟨positive, Nat.sub_pos_of_lt first⟩

theorem split_ascending : (split items length).Pairwise fun b c => b.first < c.first := by
  rw [split_pieces, List.pairwise_map]
  exact List.pairwise_lt_range.imp fun before => Nat.mul_lt_mul_of_pos_right before positive

theorem split_consecutive : (split items length).IsChain fun b c => c.first = b.first + b.length := by
  rw [split_pieces, List.isChain_map, List.isChain_range]
  intro i inside
  rw [earlier_piece_full items length positive i (by omega)]
  exact Nat.succ_mul i length

theorem split_positions : (split items length).flatMap positions = List.range items := by
  have each : ∀ b ∈ split items length, b.positions = (b.slice (List.range items)).map Prod.snd := by
    intro b member
    rw [split_pieces] at member
    obtain ⟨i, _, rfl⟩ := List.mem_map.mp member
    rw [slice, List.zipIdx_map_snd, List.length_take, List.length_drop, List.length_range, positions, piece,
      Nat.min_assoc, Nat.min_self]
  have covered := split_covers (List.range items) length positive
  rw [List.length_range] at covered
  calc (split items length).flatMap positions
      = (split items length).flatMap fun b => (b.slice (List.range items)).map Prod.snd := List.flatMap_congr each
    _ = ((split items length).flatMap fun b => b.slice (List.range items)).map Prod.snd := List.map_flatMap.symm
    _ = List.range items := by rw [covered, List.zipIdx_map_snd, List.length_range, List.range_eq_range']

theorem split_full (b : Batch) (member : b ∈ (split items length).dropLast) : b.length = length := by
  obtain ⟨i, inside, rfl⟩ := List.mem_iff_getElem.mp member
  rw [List.length_dropLast, split_pieces, List.length_map, List.length_range] at inside
  rw [List.getElem_dropLast]
  simp only [split_pieces, List.getElem_map, List.getElem_range]
  exact earlier_piece_full items length positive i (by omega)

end Split

theorem split_partitions (items threads : Nat) (positive : 0 < threads) :
    Partitions items threads (leastLength items threads) (split items (leastLength items threads)) := by
  have some := least_length_positive items threads
  refine ⟨split_nonempty items _ some, split_ascending items _ some, split_consecutive items _ some,
    split_positions items _ some, ?_, split_full items _ some, split_bounded items _⟩
  rw [split_pieces, List.length_map, List.length_range]
  exact (batch_count items threads _ some).mpr (least_length_holds items threads positive).1.2

theorem runs_serially (items threads : Nat) (always : Bool) :
    runsSerially items threads always = true ↔ threads = 1 ∨ always = false ∧ items < serialThreshold := by
  simp [runsSerially]

-- What the work function is called with, one call a batch.
structure Calls (items threads : Nat) (always : Bool) (length : Nat) (batches : List Batch) : Prop where
  idle : items = 0 → batches = []
  serial : 0 < items → threads = 1 ∨ always = false ∧ items < serialThreshold → batches = [⟨0, items⟩]
  pooled : 0 < items → ¬ (threads = 1 ∨ always = false ∧ items < serialThreshold) →
    Partitions items threads length batches

theorem plan_calls (α : Type) (items threads : Nat) (always : Bool) (positive : 0 < threads) :
    ∃ batches, (plan items threads always : Except (Fault α) _) = .ok batches ∧
      Calls items threads always (leastLength items threads) batches := by
  rw [plan, require_bind _ _ _ positive]
  by_cases empty : items = 0
  · exact ⟨[], if_pos empty, fun _ => rfl, fun some => absurd empty some.ne', fun some => absurd empty some.ne'⟩
  rw [if_neg empty]
  by_cases serial : runsSerially items threads always = true
  · refine ⟨[⟨0, items⟩], if_pos serial, fun none => absurd none empty, fun _ _ => rfl, fun _ pooled => ?_⟩
    exact absurd ((runs_serially items threads always).mp serial) pooled
  · refine ⟨split items (leastLength items threads), if_neg serial, fun none => absurd none empty, fun _ alone => ?_, fun _ _ => ?_⟩
    · exact absurd ((runs_serially items threads always).mpr alone) serial
    · exact split_partitions items threads positive

theorem plan_positions (α : Type) (items threads : Nat) (always : Bool) (positive : 0 < threads) :
    (planPositions items threads always : Except (Fault α) _) =
      if items * 8 ≤ Word.listBytes then plan items threads always else .error .listTooLong := by
  rw [planPositions, require_bind _ _ _ positive, Word.reserve]
  by_cases room : items * 8 ≤ Word.listBytes
  · rw [require_bind _ _ _ room, if_pos room]
  · rw [require, if_neg room, if_neg room]
    rfl

theorem positions_partitioned (α : Type) (items threads : Nat) (always : Bool) (positive : 0 < threads) :
    ∃ length, (lengthFor items threads : Except (Fault α) Nat) = .ok length ∧
      IsLeast {length | 0 < length ∧ items ≤ threads * length} length ∧
      ∃ batches, Calls items threads always length batches ∧
        (planPositions items threads always : Except (Fault α) _) =
          if items * 8 ≤ Word.listBytes then .ok batches else .error .listTooLong := by
  obtain ⟨batches, planned, calls⟩ := plan_calls α items threads always positive
  refine ⟨_, require_bind _ _ _ positive, least_length_holds items threads positive, batches, calls, ?_⟩
  rw [plan_positions α items threads always positive, planned]

theorem thousand_positions_partitioned :
    0 < 7 ∧ ∃ length, (lengthFor 1000 7 : Except (Fault Float) Nat) = .ok length ∧
      IsLeast {length | 0 < length ∧ 1000 ≤ 7 * length} length ∧
      ∃ batches, Calls 1000 7 false length batches ∧
        (planPositions 1000 7 false : Except (Fault Float) _) =
          if 1000 * 8 ≤ Word.listBytes then .ok batches else .error .listTooLong :=
  ⟨by decide, positions_partitioned Float 1000 7 false (by decide)⟩

-- One thread would take all positions at once, but the list of them has no room.
theorem too_many_positions :
    ¬ ∀ items threads : Nat, 0 < items → threads = 1 →
      (planPositions items threads false : Except (Fault Float) _) = .ok [⟨0, items⟩] := by
  intro planned
  have alone := planned (2 ^ 60) 1 (by decide) rfl
  rw [plan_positions Float (2 ^ 60) 1 false Nat.one_pos, if_neg (by decide)] at alone
  cases alone

end Batch

end LandmarkMap
