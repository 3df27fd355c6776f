import LandmarkMap.Solver.CostTerm
import LandmarkMap.Proofs.Solver.RowMajor

set_option autoImplicit false

namespace LandmarkMap

variable {α : Type} {m n : Nat}

theorem fill_slot_ok (slots out : List (Option (List α))) (block : Nat) (a : Mat m n α) :
    fillSlot slots block a = .ok out ↔
      slots[block]? = some none ∧ out = slots ∨
        ∃ buffer, slots[block]? = some (some buffer) ∧ buffer.length = m * n ∧
          out = slots.set block (some a.entries) := by
  unfold fillSlot
  rw [bind_ok]
  constructor
  · rintro ⟨slot, found, done⟩
    rw [fetch_ok] at found
    cases slot with
    | none => exact .inl ⟨found, (pure_ok _ _).mp done |>.symm⟩
    | some buffer =>
        obtain ⟨written, filled, done⟩ := (bind_ok _ _ _).mp done
        obtain ⟨fits, rfl⟩ := (write_row_major_iff a buffer written).mp filled
        exact .inr ⟨buffer, found, fits, (pure_ok _ _).mp done |>.symm⟩
  · rintro (⟨found, rfl⟩ | ⟨buffer, found, fits, rfl⟩)
    · exact ⟨none, (fetch_ok _ _ _).mpr found, rfl⟩
    · refine ⟨some buffer, (fetch_ok _ _ _).mpr found, ?_⟩
      dsimp only
      rw [write_row_major_ok a buffer fits]
      rfl

-- A Jacobian and the block that it belongs to.
structure BlockJacobian (rows : Nat) (α : Type) where
  block : Nat
  size : Nat
  matrix : Mat rows size α

def fillAll {rows : Nat} (slots : List (Option (List α))) (jacobians : List (BlockJacobian rows α)) :
    Except (Fault α) (List (Option (List α))) :=
  jacobians.foldlM (fun slots j => fillSlot slots j.block j.matrix) slots

theorem fill_slot_self (slots out : List (Option (List α))) (block : Nat) (a : Mat m n α)
    (buffer : List α) (asked : slots[block]? = some (some buffer)) (done : fillSlot slots block a = .ok out) :
    out[block]? = some (some a.entries) := by
  rcases (fill_slot_ok _ _ _ _).mp done with ⟨empty, _⟩ | ⟨_, found, _, rfl⟩
  · cases empty.symm.trans asked
  · obtain ⟨inside, _⟩ := List.getElem?_eq_some_iff.mp found
    exact List.getElem?_set_self inside

theorem fill_slot_other (slots out : List (Option (List α))) (block other : Nat) (a : Mat m n α)
    (apart : block ≠ other) (done : fillSlot slots block a = .ok out) : out[other]? = slots[other]? := by
  rcases (fill_slot_ok _ _ _ _).mp done with ⟨_, rfl⟩ | ⟨_, _, _, rfl⟩
  · rfl
  · exact List.getElem?_set_ne apart

def answerWith {rows : Nat} (residuals : List α) (jacobians : List (BlockJacobian rows α)) (buffers : Buffers α) :
    Except (Fault α) (Bool × Buffers α) := do
  let residuals ← Block.writeFront residuals buffers.residuals
  match buffers.jacobians with
  | some slots => return (true, ⟨residuals, some (← fillAll slots jacobians)⟩)
  | none => return (true, ⟨residuals, none⟩)

theorem fill_all_other {rows : Nat} (jacobians : List (BlockJacobian rows α))
    (slots out : List (Option (List α))) (other : Nat) (apart : ∀ j ∈ jacobians, j.block ≠ other)
    (done : fillAll slots jacobians = .ok out) : out[other]? = slots[other]? := by
  induction jacobians generalizing slots with
  | nil =>
      cases done
      rfl
  | cons first rest ih =>
      obtain ⟨next, filled, remaining⟩ := (bind_ok _ _ _).mp done
      rw [ih next (fun j member => apart j (List.mem_cons_of_mem first member)) remaining]
      exact fill_slot_other slots next first.block other first.matrix (apart first List.mem_cons_self) filled

-- Each block is filled once, so what was written for it stays.
theorem fill_all_written {rows : Nat} (jacobians : List (BlockJacobian rows α))
    (slots out : List (Option (List α))) (distinct : (jacobians.map (·.block)).Nodup)
    (done : fillAll slots jacobians = .ok out) (j : BlockJacobian rows α) (member : j ∈ jacobians)
    (buffer : List α) (asked : slots[j.block]? = some (some buffer)) :
    out[j.block]? = some (some j.matrix.entries) := by
  induction jacobians generalizing slots with
  | nil => cases member
  | cons first rest ih =>
      obtain ⟨next, filled, remaining⟩ := (bind_ok _ _ _).mp done
      obtain ⟨fresh, distinct⟩ := List.nodup_cons.mp distinct
      rcases List.mem_cons.mp member with rfl | later
      · have apart : ∀ k ∈ rest, k.block ≠ j.block := fun k there same =>
          fresh (List.mem_map.mpr ⟨k, there, same⟩)
        rw [fill_all_other rest next out j.block apart remaining]
        exact fill_slot_self slots next j.block j.matrix buffer asked filled
      · have apart : first.block ≠ j.block := fun same =>
          fresh (List.mem_map.mpr ⟨j, later, same.symm⟩)
        refine ih next distinct remaining later ?_
        rw [fill_slot_other slots next first.block j.block first.matrix apart filled]
        exact asked

section Filling

variable {rows : Nat} (jacobians : List (BlockJacobian rows α)) (slots out : List (Option (List α)))

theorem fill_slot_length {m n : Nat} (block : Nat) (a : Mat m n α) (done : fillSlot slots block a = .ok out) :
    out.length = slots.length := by
  rcases (fill_slot_ok _ _ _ _).mp done with ⟨_, rfl⟩ | ⟨_, _, _, rfl⟩
  · rfl
  · exact List.length_set

theorem fill_all_length (done : fillAll slots jacobians = .ok out) : out.length = slots.length := by
  induction jacobians generalizing slots with
  | nil =>
      cases done
      rfl
  | cons first rest ih =>
      obtain ⟨next, filled, remaining⟩ := (bind_ok _ _ _).mp done
      rw [ih next remaining, fill_slot_length _ _ _ _ filled]

theorem fill_slot_skips {m n : Nat} (block other : Nat) (a : Mat m n α) (empty : slots[other]? = some none)
    (done : fillSlot slots block a = .ok out) : out[other]? = some none := by
  rcases (fill_slot_ok _ _ _ _).mp done with ⟨_, rfl⟩ | ⟨_, found, _, rfl⟩
  · exact empty
  · have apart : block ≠ other := by
      rintro rfl
      cases found.symm.trans empty
    rw [List.getElem?_set_ne apart]
    exact empty

theorem fill_all_skips (other : Nat) (empty : slots[other]? = some none) (done : fillAll slots jacobians = .ok out) :
    out[other]? = some none := by
  induction jacobians generalizing slots with
  | nil =>
      cases done
      exact empty
  | cons first rest ih =>
      obtain ⟨next, filled, remaining⟩ := (bind_ok _ _ _).mp done
      exact ih next (fill_slot_skips _ _ _ _ _ empty filled) remaining

end Filling

def SlotFits (slots : List (Option (List α))) (block cells : Nat) : Prop :=
  ∃ slot, slots[block]? = some slot ∧ ∀ buffer, slot = some buffer → buffer.length = cells

theorem fill_slot_fits (slots : List (Option (List α))) (block : Nat) (a : Mat m n α)
    (fits : SlotFits slots block (m * n)) : ∃ out, fillSlot slots block a = .ok out := by
  obtain ⟨slot, found, room⟩ := fits
  cases slot with
  | none => exact ⟨slots, (fill_slot_ok _ _ _ _).mpr (.inl ⟨found, rfl⟩)⟩
  | some buffer => exact ⟨_, (fill_slot_ok _ _ _ _).mpr (.inr ⟨buffer, found, room buffer rfl, rfl⟩)⟩

theorem fill_all_fits {rows : Nat} (jacobians : List (BlockJacobian rows α))
    (slots : List (Option (List α))) (distinct : (jacobians.map (·.block)).Nodup)
    (fits : ∀ j ∈ jacobians, SlotFits slots j.block (rows * j.size)) :
    ∃ out, fillAll slots jacobians = .ok out := by
  induction jacobians generalizing slots with
  | nil => exact ⟨slots, rfl⟩
  | cons first rest ih =>
      obtain ⟨fresh, distinct⟩ := List.nodup_cons.mp distinct
      obtain ⟨next, filled⟩ := fill_slot_fits slots first.block first.matrix (fits first List.mem_cons_self)
      have still : ∀ j ∈ rest, SlotFits next j.block (rows * j.size) := by
        intro j later
        have apart : first.block ≠ j.block := fun same =>
          fresh (List.mem_map.mpr ⟨j, later, same.symm⟩)
        obtain ⟨slot, found, room⟩ := fits j (List.mem_cons_of_mem first later)
        exact ⟨slot, (fill_slot_other slots next first.block j.block first.matrix apart filled).trans found, room⟩
      obtain ⟨out, done⟩ := ih next distinct still
      exact ⟨out, (bind_ok _ _ _).mpr ⟨next, filled, done⟩⟩

-- Buffers that a term can write to: room for the residuals, and in each slot that is not empty for
-- the Jacobian of its block.
structure CostTerm.Fits (t : CostTerm α) (buffers : Buffers α) : Prop where
  residuals : t.residualCount ≤ buffers.residuals.length
  slots : ∀ slots, buffers.jacobians = some slots → ∀ (block size : Nat), t.blockSizes[block]? = some size →
    SlotFits slots block (t.residualCount * size)

theorem masked_fits [Scalar α] (t : CostTerm α) (wanted : List Bool) :
    t.Fits (Buffers.masked t.residualCount t.blockSizes wanted) := by
  refine ⟨?_, ?_⟩
  · rw [Buffers.masked, List.length_replicate]
  · intro slots asked block size listed
    cases asked
    refine ⟨if wanted.getD block false then some (List.replicate (t.residualCount * size) 0) else none, ?_, ?_⟩
    · simp [listed]
    · intro buffer held
      split at held
      · cases held
        exact List.length_replicate
      · cases held

-- A Jacobian of the size and at the position of each block.
def CostTerm.Lists (t : CostTerm α) (jacobians : List (BlockJacobian t.residualCount α)) : Prop :=
  jacobians.map (fun j => (j.size, j.block)) = t.blockSizes.zipIdx

section Listed

variable (t : CostTerm α) (jacobians : List (BlockJacobian t.residualCount α)) (listed : t.Lists jacobians)

include listed

theorem listed_blocks : jacobians.map (·.block) = List.range t.blockSizes.length := by
  have blocks : jacobians.map (·.block) = t.blockSizes.zipIdx.map Prod.snd := by
    rw [← listed, List.map_map]
    rfl
  rw [blocks, List.zipIdx_map_snd, List.range_eq_range']

theorem listed_member (j : BlockJacobian t.residualCount α) (member : j ∈ jacobians) :
    t.blockSizes[j.block]? = some j.size := by
  have pair : (j.size, j.block) ∈ t.blockSizes.zipIdx := listed ▸ List.mem_map.mpr ⟨j, member, rfl⟩
  exact List.mem_zipIdx_iff_getElem?.mp pair

theorem listed_matrix (block : Fin t.blockSizes.length) :
    ∃ (a : Mat t.residualCount (t.blockSizes.get block) α) (j : BlockJacobian t.residualCount α), j ∈ jacobians ∧
      j.block = block ∧ j.matrix.entries = a.entries := by
  have pair : (t.blockSizes[block], block.val) ∈ t.blockSizes.zipIdx := by
    rw [List.mem_zipIdx_iff_getElem?]
    exact List.getElem?_eq_getElem block.isLt
  rw [← listed] at pair
  obtain ⟨⟨position, size, a⟩, member, same⟩ := List.mem_map.mp pair
  obtain ⟨rfl, rfl⟩ := Prod.mk.inj same
  exact ⟨a, _, member, rfl, rfl⟩

theorem listed_fit (buffers : Buffers α) (fits : t.Fits buffers) (slots : List (Option (List α)))
    (asked : buffers.jacobians = some slots) : ∃ out, fillAll slots jacobians = .ok out :=
  fill_all_fits jacobians slots (listed_blocks t jacobians listed ▸ List.nodup_range) fun j member =>
    fits.slots slots asked j.block j.size (listed_member t jacobians listed j member)

end Listed

end LandmarkMap
