import LandmarkMap.Proofs.Solver.Requests
import LandmarkMap.Solver.Quadratic

set_option autoImplicit false

namespace LandmarkMap

variable {α : Type}

-- What a caller knows of its buffers without reading them.
def Buffers.sizes (buffers : Buffers α) : Nat × Option (List (Option Nat)) :=
  (buffers.residuals.length, buffers.jacobians.map fun slots => slots.map fun slot => slot.map List.length)

-- A call writes into the buffers that it is given and does not resize them.
def CostTerm.KeepsSizes (t : CostTerm α) : Prop :=
  ∀ parameters before answer after, parameters.map List.length = t.blockSizes →
    t.evaluate parameters before = .ok (answer, after) → after.sizes = before.sizes

def Parameterization.KeepsSizes (p : Parameterization α) : Prop :=
  ∀ x buffer answer written, p.jacobian x buffer = .ok (answer, written) → written.length = buffer.length

theorem write_front_length (values buffer out : List α) (done : Block.writeFront values buffer = .ok out) :
    out.length = buffer.length := by
  rw [Block.writeFront] at done
  split at done
  · rename_i fits
    cases done
    rw [List.length_append, List.length_drop, Nat.add_sub_cancel' fits]
  · cases done

theorem write_row_major_length {m n : Nat} (a : Mat m n α) (buffer out : List α) (done : a.writeRowMajor buffer = .ok out) :
    out.length = buffer.length := by
  obtain ⟨fits, rfl⟩ := (write_row_major_iff a buffer out).mp done
  rw [entries_length, fits]

theorem fill_slot_sizes {m n : Nat} (slots out : List (Option (List α))) (block : Nat) (a : Mat m n α)
    (done : fillSlot slots block a = .ok out) : out.map (Option.map List.length) = slots.map (Option.map List.length) := by
  rcases (fill_slot_ok _ _ _ _).mp done with ⟨_, rfl⟩ | ⟨buffer, found, fits, rfl⟩
  · rfl
  · have kept : (slots.map (Option.map List.length))[block]? = some (some a.entries.length) := by
      rw [List.getElem?_map, found, entries_length, ← fits]
      rfl
    obtain ⟨inside, same⟩ := List.getElem?_eq_some_iff.mp kept
    rw [List.map_set, Option.map_some, ← same, List.set_getElem_self]

theorem fill_all_sizes {rows : Nat} (jacobians : List (BlockJacobian rows α)) (slots out : List (Option (List α)))
    (done : fillAll slots jacobians = .ok out) : out.map (Option.map List.length) = slots.map (Option.map List.length) := by
  induction jacobians generalizing slots with
  | nil =>
      cases done
      rfl
  | cons first rest ih =>
      obtain ⟨next, filled, remaining⟩ := (bind_ok _ _ _).mp done
      rw [ih next remaining, fill_slot_sizes _ _ _ _ filled]

theorem answer_with_sizes {rows : Nat} (residuals : List α) (jacobians : List (BlockJacobian rows α)) (before after : Buffers α)
    (answer : Bool) (done : answerWith residuals jacobians before = .ok (answer, after)) : after.sizes = before.sizes := by
  obtain ⟨written, front, done⟩ := (bind_ok _ _ _).mp done
  have length := write_front_length _ _ _ front
  cases asked : before.jacobians with
  | none =>
      rw [asked] at done
      cases done
      rw [Buffers.sizes, Buffers.sizes, length, asked]
  | some slots =>
      rw [asked] at done
      obtain ⟨out, filled, done⟩ := (bind_ok _ _ _).mp done
      cases done
      rw [Buffers.sizes, Buffers.sizes, length, asked]
      exact congrArg (fun sizes => (before.residuals.length, some sizes)) (fill_all_sizes _ _ _ filled)

theorem settled_keeps_sizes (t : CostTerm α)
    (settles : ∀ parameters, parameters.map List.length = t.blockSizes → t.Settles parameters) : t.KeepsSizes := by
  intro parameters before answer after sizes done
  rcases settles parameters sizes with refused | ⟨residuals, jacobians, _, evaluates⟩
  · rw [refused] at done
    cases done
    rfl
  · rw [evaluates] at done
    exact answer_with_sizes _ _ _ _ _ done

theorem masked_sizes [Scalar α] (count : Nat) (sizes : List Nat) :
    (Buffers.masked count sizes (sizes.map fun _ => true) : Buffers α).sizes =
      (count, some ((sizes.map (count * ·)).map some)) := by
  have wanted : ∀ entry ∈ sizes.zipIdx, (sizes.map fun _ => true).getD entry.2 false = true := by
    intro entry member
    have inside : entry.2 < sizes.length := List.snd_lt_of_mem_zipIdx member
    rw [List.getD_eq_getElem?_getD, List.getElem?_map, List.getElem?_eq_getElem inside]
    rfl
  have slots : (Buffers.masked count sizes (sizes.map fun _ => true) : Buffers α).jacobians =
      some (sizes.map fun size => some (List.replicate (count * size) 0)) := by
    refine congrArg some ?_
    calc _ = sizes.zipIdx.map ((fun size => some (List.replicate (count * size) (0 : α))) ∘ Prod.fst) :=
          List.map_congr_left fun entry member => if_pos (wanted entry member)
      _ = _ := by rw [← List.map_map, List.zipIdx_map_fst]
  rw [Buffers.sizes, slots, Buffers.masked]
  simp [Function.comp_def]

theorem filled_slots {τ ρ : Type} (f : τ → ρ) (slots : List (Option τ)) (values : List ρ)
    (same : slots.map (Option.map f) = values.map some) :
    ∃ written : List τ, slots = written.map some ∧ written.map f = values := by
  induction slots generalizing values with
  | nil => exact ⟨[], rfl, (List.map_eq_nil_iff.mp same.symm).symm⟩
  | cons slot rest ih =>
      obtain ⟨value, others, rfl, first, later⟩ := List.map_eq_cons_iff.mp same.symm
      obtain ⟨item, rfl, rfl⟩ := Option.map_eq_some_iff.mp first.symm
      obtain ⟨written, rfl, rfl⟩ := ih others later.symm
      exact ⟨item :: written, rfl, rfl⟩

-- A buffer of its block in every slot.
structure CostTerm.Full (t : CostTerm α) (buffers : Buffers α) (written : List (List α)) : Prop where
  slots : buffers.jacobians = some (written.map some)
  residuals : buffers.residuals.length = t.residualCount
  sizes : written.map List.length = t.blockSizes.map (t.residualCount * ·)

section Library

variable [Scalar α]

theorem terms_keep_sizes :
    (∀ prior : PosePrior α, prior.term.KeepsSizes) ∧ ∀ e : ReprojectionError α, e.term.KeepsSizes :=
  ⟨fun prior => settled_keeps_sizes _ prior.settles, fun e => settled_keeps_sizes _ e.settles⟩

theorem quadratic_keeps_sizes (c : Quadratic α) : c.term.KeepsSizes := by
  intro parameters before answer after _ done
  obtain ⟨block, _, done⟩ := (bind_ok _ _ _).mp done
  obtain ⟨first, _, done⟩ := (bind_ok _ _ _).mp done
  extract_lets failed at done
  cases refused : failed with
  | true =>
      rw [refused] at done
      cases done
      rfl
  | false =>
      rw [refused] at done
      obtain ⟨second, _, done⟩ := (bind_ok _ _ _).mp done
      cases asked : before.jacobians with
      | none =>
          rw [asked] at done
          obtain ⟨written, front, done⟩ := (bind_ok _ _ _).mp done
          cases done
          rw [Buffers.sizes, Buffers.sizes, write_front_length _ _ _ front, asked]
      | some slots =>
          rw [asked] at done
          obtain ⟨written, front, done⟩ := (bind_ok _ _ _).mp done
          obtain ⟨out, filled, done⟩ := (bind_ok _ _ _).mp done
          cases done
          rw [Buffers.sizes, Buffers.sizes, write_front_length _ _ _ front, asked]
          exact congrArg (fun sizes => (before.residuals.length, some sizes)) (fill_slot_sizes _ _ _ _ filled)

theorem write_diagonal_length (size n i : Nat) (buffer written : List α)
    (done : Parameterization.writeDiagonal size n i buffer = .ok written) : written.length = buffer.length := by
  induction n generalizing i buffer with
  | zero =>
      cases done
      rfl
  | succ n ih =>
      rw [Parameterization.writeDiagonal] at done
      split at done
      · rw [ih _ _ done, List.length_set]
      · cases done

theorem updates_keep_sizes :
    (Parameterization.quaternion : Parameterization α).KeepsSizes ∧
    (Parameterization.bearing : Parameterization α).KeepsSizes ∧
    ∀ size, (Parameterization.euclideanOf size : Parameterization α).KeepsSizes := by
  refine ⟨fun x buffer answer written done => ?_, fun x buffer answer written done => ?_,
    fun size x buffer answer written done => ?_⟩
  · obtain ⟨q, _, done⟩ := (bind_ok _ _ _).mp done
    obtain ⟨out, filled, done⟩ := (bind_ok _ _ _).mp done
    cases done
    exact write_row_major_length _ _ _ filled
  · obtain ⟨b, _, done⟩ := (bind_ok _ _ _).mp done
    obtain ⟨out, filled, done⟩ := (bind_ok _ _ _).mp done
    cases done
    exact write_row_major_length _ _ _ filled
  · obtain ⟨out, filled, done⟩ := (bind_ok _ _ _).mp done
    cases done
    rw [write_diagonal_length _ _ _ _ _ filled, List.length_replicate]

end Library

end LandmarkMap
