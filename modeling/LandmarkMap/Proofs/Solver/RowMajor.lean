import Mathlib.Data.List.FinRange
import LandmarkMap.Solver.Block
import LandmarkMap.Proofs.Outcome

set_option autoImplicit false

namespace LandmarkMap

variable {α : Type} {m n : Nat}

theorem rows_list (a : Mat m n α) (i : Nat) (inside : i < m) :
    a.rows[i].toList = List.ofFn fun j => a.get ⟨i, inside⟩ j := by
  rw [← Vector.toList_ofFn]
  congr 1
  apply Vector.ext
  intro j within
  simp [Mat.get]

theorem entries_rows (a : Mat m n α) :
    a.entries = (List.ofFn fun i => List.ofFn fun j => a.get i j).flatten := by
  have rows : a.rows.toList = List.ofFn fun i : Fin m => a.rows[i] := by
    rw [← Vector.toList_ofFn]
    congr 1
    apply Vector.ext
    intro i inside
    simp
  rw [Mat.entries, rows, List.flatMap_def, List.map_ofFn]
  congr 2
  funext i
  exact rows_list a i i.isLt

theorem cell_row (i : Fin m) (j : Fin n) :
    (⟨i.val * n + j.val, Mat.row_major_bound i j⟩ : Fin (m * n)).divNat = i := by
  apply Fin.ext
  change (i.val * n + j.val) / n = i.val
  rw [Nat.mul_comm, Nat.mul_add_div (Nat.zero_lt_of_lt j.isLt), Nat.div_eq_of_lt j.isLt, Nat.add_zero]

theorem cell_column (i : Fin m) (j : Fin n) :
    (⟨i.val * n + j.val, Mat.row_major_bound i j⟩ : Fin (m * n)).modNat = j := by
  apply Fin.ext
  change (i.val * n + j.val) % n = j.val
  rw [Nat.mul_comm, Nat.mul_add_mod, Nat.mod_eq_of_lt j.isLt]

-- What is laid out row by row, by its cells: a cell is a quotient and a remainder by the length of a row.
theorem rows_end_to_end {τ : Type} (f : Fin (m * n) → Fin m → Fin n → τ) :
    (List.ofFn fun i => List.ofFn fun j => f ⟨i.val * n + j.val, Mat.row_major_bound i j⟩ i j).flatten =
      List.ofFn fun cell => f cell cell.divNat cell.modNat := by
  rw [List.ofFn_mul]
  simp only [cell_row, cell_column]

theorem entries_cells (a : Mat m n α) :
    a.entries = List.ofFn fun cell : Fin (m * n) => a.get cell.divNat cell.modNat := by
  rw [entries_rows]
  exact rows_end_to_end fun _ i j => a.get i j

theorem entries_length (a : Mat m n α) : a.entries.length = m * n := by
  rw [entries_cells, List.length_ofFn]

theorem entries_cell (a : Mat m n α) (i : Fin m) (k : Fin n) :
    a.entries[i.val * n + k.val]? = some (a.get i k) := by
  rw [entries_cells, List.getElem?_ofFn, dif_pos (Mat.row_major_bound i k), cell_row, cell_column]

theorem entries_set (a : Mat m n α) (i : Fin m) (j : Fin n) (value : α) :
    a.entries.set (i.val * n + j.val) value =
      (Mat.of fun row column => if row = i ∧ column = j then value else a.get row column).entries := by
  rw [entries_cells, entries_cells]
  apply List.ext_getElem
  · rw [List.length_set, List.length_ofFn, List.length_ofFn]
  · intro cell inside there
    rw [List.getElem_set, List.getElem_ofFn, List.getElem_ofFn, Mat.get_of]
    by_cases here : i.val * n + j.val = cell
    · subst here
      rw [if_pos rfl, if_pos ⟨cell_row i j, cell_column i j⟩]
    · rw [if_neg here, if_neg]
      rintro ⟨row, column⟩
      have quotient : cell / n = i.val := congrArg Fin.val row
      have remainder : cell % n = j.val := congrArg Fin.val column
      rw [← quotient, ← remainder] at here
      exact here (Nat.div_add_mod' cell n)

section Writing

variable (a : Mat m n α) (buffer : List α)

theorem write_row_major_ok (fits : buffer.length = m * n) : a.writeRowMajor buffer = .ok a.entries := by
  rw [Mat.writeRowMajor, if_pos fits]

theorem write_row_major_refused (misfits : buffer.length ≠ m * n) : a.writeRowMajor buffer = .error .jacobianBufferLength := by
  rw [Mat.writeRowMajor, if_neg misfits]

theorem write_row_major_iff (out : List α) : a.writeRowMajor buffer = .ok out ↔ buffer.length = m * n ∧ a.entries = out := by
  by_cases fits : buffer.length = m * n
  · rw [write_row_major_ok a buffer fits, Except.ok.injEq, and_iff_right fits]
  · rw [write_row_major_refused a buffer fits]
    exact ⟨nofun, fun both => absurd both.1 fits⟩

theorem write_row_major_accepts : (∃ out, a.writeRowMajor buffer = .ok out) ↔ buffer.length = m * n := by
  simp only [write_row_major_iff, exists_and_left, exists_eq', and_true]

end Writing

theorem entries_read (a : Mat m n α) : Mat.ofRowMajor m n a.entries = .ok a := by
  rw [Mat.ofRowMajor, dif_pos (entries_length a)]
  congr 1
  apply Mat.ext_get
  intro i j
  simp only [Mat.get_of, List.get_eq_getElem, entries_cells, List.getElem_ofFn, cell_row, cell_column]

theorem row_major_read (m n : Nat) (data : List α) (fits : data.length = m * n) :
    ∃ a : Mat m n α, Mat.ofRowMajor m n data = .ok a ∧ a.entries = data := by
  refine ⟨_, dif_pos fits, ?_⟩
  rw [entries_cells]
  apply List.ext_getElem
  · rw [List.length_ofFn, fits]
  · intro cell inside there
    simp only [List.getElem_ofFn, Mat.get_of, List.get_eq_getElem, Fin.coe_divNat, Fin.coe_modNat, Nat.div_add_mod']

section Reading

variable (data : List α)

theorem read_row_major_refused (misfits : data.length ≠ m * n) :
    (Mat.ofRowMajor m n data : Except (Fault α) (Mat m n α)) =
      .error (if m * n < UInt64.size then .bufferLength else .multiplicationOverflow) := by
  rw [Mat.ofRowMajor, dif_neg misfits, Word.mul]
  split
  · rfl
  · rfl

-- A matrix is read from its own entries and from nothing else.
theorem read_row_major_iff (a : Mat m n α) : Mat.ofRowMajor m n data = .ok a ↔ a.entries = data := by
  constructor
  · intro read
    by_cases fits : data.length = m * n
    · obtain ⟨b, found, entries⟩ := row_major_read m n data fits
      rw [found] at read
      cases read
      exact entries
    · rw [read_row_major_refused data fits] at read
      cases read
  · rintro rfl
    exact entries_read a

theorem read_row_major_accepts : (∃ a : Mat m n α, Mat.ofRowMajor m n data = .ok a) ↔ data.length = m * n := by
  constructor
  · rintro ⟨a, read⟩
    rw [← (read_row_major_iff data a).mp read, entries_length]
  · intro fits
    obtain ⟨a, read, _⟩ := row_major_read m n data fits
    exact ⟨a, read⟩

end Reading

-- A value on its way into a cell.
structure Store (α : Type) where
  cell : Nat
  value : α

def Store.into (buffer : List α) (store : Store α) : Except (Fault α) (List α) :=
  if store.cell < buffer.length then .ok (buffer.set store.cell store.value) else .error .indexOutOfBounds

-- One row after the other, each from left to right.
def Mat.stores (a : Mat m n α) : List (Store α) :=
  (List.finRange m).flatMap fun i => (List.finRange n).map fun j => ⟨i.val * n + j.val, a.get i j⟩

theorem store_next (written buffer : List α) (store : Store α) (next : store.cell = written.length)
    (room : written.length < buffer.length) :
    store.into (written ++ buffer.drop written.length) =
      .ok (written ++ [store.value] ++ buffer.drop (written.length + 1)) := by
  have inside : store.cell < (written ++ buffer.drop written.length).length := by
    rw [next, List.length_append, List.length_drop]
    omega
  rw [Store.into, if_pos inside, next, List.set_append_right _ _ le_rfl, Nat.sub_self, List.drop_eq_getElem_cons room,
    List.set_cons_zero, List.append_cons]

section Walk

variable (a : Mat m n α)

theorem stores_cells : a.stores = List.ofFn fun cell : Fin (m * n) => ⟨cell, a.get cell.divNat cell.modNat⟩ := by
  rw [← rows_end_to_end fun cell i j => (⟨cell, a.get i j⟩ : Store α)]
  simp only [Mat.stores, List.flatMap_def, List.ofFn_eq_map]

theorem stores_length : a.stores.length = m * n := by
  rw [stores_cells, List.length_ofFn]

theorem stores_once : a.stores.map Store.cell = List.range (m * n) := by
  rw [stores_cells, List.map_ofFn, List.ofFn_eq_map]
  exact List.map_coe_finRange_eq_range

theorem stores_values : a.stores.map Store.value = a.entries := by
  rw [stores_cells, List.map_ofFn, entries_cells]
  rfl

-- However far the walk has come, the cells behind it hold entries and those ahead what they held.
theorem stores_run (buffer : List α) (fits : buffer.length = m * n) (k : Nat) (upTo : k ≤ m * n) :
    (a.stores.take k).foldlM Store.into buffer = .ok (a.entries.take k ++ buffer.drop k) := by
  induction k with
  | zero => rfl
  | succ k ih =>
      have inside : k < a.stores.length := (stores_length a).symm ▸ upTo
      have within : k < a.entries.length := (entries_length a).symm ▸ upTo
      have walked : (a.entries.take k).length = k := List.length_take_of_le within.le
      have cell : a.stores[k].cell = k := by simp only [stores_cells, List.getElem_ofFn]
      have value : a.stores[k].value = a.entries[k] := by simp only [← stores_values, List.getElem_map]
      have stored := store_next (a.entries.take k) buffer a.stores[k] (cell.trans walked.symm)
        (walked.symm ▸ fits.symm ▸ upTo)
      rw [walked, value] at stored
      rw [List.take_succ_eq_append_getElem inside, List.foldlM_append, ih (Nat.le_of_succ_le upTo), ok_bind,
        List.foldlM_cons, stored, ok_bind, List.take_succ_eq_append_getElem within]
      rfl

theorem stores_write (buffer : List α) (fits : buffer.length = m * n) :
    a.stores.foldlM Store.into buffer = .ok a.entries := by
  have walked := stores_run a buffer fits (m * n) le_rfl
  rwa [List.take_of_length_le (stores_length a).le, List.take_of_length_le (entries_length a).le,
    List.drop_of_length_le fits.le, List.append_nil] at walked

end Walk

-- What is left of a buffer, whatever it held: every cell was stored to, once, and has its entry.
structure Mat.Overwrites (a : Mat m n α) (buffer out : List α) : Prop where
  once : a.stores.map Store.cell = List.range buffer.length
  run : a.stores.foldlM Store.into buffer = .ok out
  length : out.length = buffer.length
  cells : ∀ (i : Fin m) (j : Fin n), out[i.val * n + j.val]? = some (a.get i j)

theorem entries_overwrite (a : Mat m n α) (buffer : List α) (fits : buffer.length = m * n) :
    a.Overwrites buffer a.entries where
  once := by rw [stores_once, fits]
  run := stores_write a buffer fits
  length := by rw [entries_length, fits]
  cells := entries_cell a

theorem transpose_read (a : Mat m n α) (buffer : List α) (fits : buffer.length = n * m) :
    ∃ (out : List α) (b : Mat n m α), a.transpose.writeRowMajor buffer = .ok out ∧
      (∀ (i : Fin m) (j : Fin n), out[j.val * m + i.val]? = some (a.get i j)) ∧ Mat.ofRowMajor n m out = .ok b ∧
      ∀ i j, a.get i j = b.get j i := by
  have turned : ∀ i j, a.transpose.get j i = a.get i j := fun i j => Mat.get_of _ j i
  refine ⟨_, _, write_row_major_ok a.transpose buffer fits, fun i j => ?_, entries_read _, fun i j => (turned i j).symm⟩
  rw [(entries_overwrite a.transpose buffer fits).cells j i, turned]

theorem row_major_round_trip (a : Mat m n α) :
    (∀ buffer : List α, (∃ out, a.writeRowMajor buffer = .ok out) ↔ buffer.length = m * n) ∧
      (∃ out, ∀ buffer : List α, buffer.length = m * n → a.writeRowMajor buffer = .ok out ∧ a.Overwrites buffer out) ∧
      (∀ data : List α, (∃ b : Mat m n α, Mat.ofRowMajor m n data = .ok b) ↔ data.length = m * n) ∧
      (∀ other : List α, other.length ≠ m * n → a.writeRowMajor other = .error .jacobianBufferLength ∧
        Mat.ofRowMajor m n other = .error (if m * n < UInt64.size then .bufferLength else .multiplicationOverflow)) ∧
      (∀ buffer out : List α, a.writeRowMajor buffer = .ok out → Mat.ofRowMajor m n out = .ok a) ∧
      (∀ data buffer : List α, Mat.ofRowMajor m n data = .ok a → buffer.length = m * n →
        a.writeRowMajor buffer = .ok data) ∧
      ∀ buffer : List α, buffer.length = n * m →
        ∃ (out : List α) (b : Mat n m α), a.transpose.writeRowMajor buffer = .ok out ∧
          (∀ (i : Fin m) (j : Fin n), out[j.val * m + i.val]? = some (a.get i j)) ∧ Mat.ofRowMajor n m out = .ok b ∧
            ∀ i j, a.get i j = b.get j i := by
  refine ⟨write_row_major_accepts a, ⟨a.entries, fun buffer fits => ?_⟩, read_row_major_accepts,
    fun other misfits => ⟨write_row_major_refused a other misfits, read_row_major_refused other misfits⟩,
    fun buffer out written => ?_, fun data buffer read fits => ?_, transpose_read a⟩
  · exact ⟨write_row_major_ok a buffer fits, entries_overwrite a buffer fits⟩
  · obtain ⟨_, rfl⟩ := (write_row_major_iff a buffer out).mp written
    exact entries_read a
  · exact (write_row_major_iff a buffer data).mpr ⟨fits, (read_row_major_iff data a).mp read⟩

def twoRows : Mat 2 3 Nat := ⟨#v[#v[1, 2, 3], #v[4, 5, 6]]⟩

-- Two rows of three, over buffers that held something else, and their columns.
theorem two_rows_round_trip :
    twoRows.writeRowMajor [7, 7, 7, 7, 7, 7] = .ok [1, 2, 3, 4, 5, 6] ∧
      Mat.ofRowMajor 2 3 [1, 2, 3, 4, 5, 6] = .ok twoRows ∧
      twoRows.writeRowMajor [0, 8, 0, 8, 0, 8] = .ok [1, 2, 3, 4, 5, 6] ∧
      ∃ b : Mat 3 2 Nat, Mat.ofRowMajor 3 2 [1, 4, 2, 5, 3, 6] = .ok b ∧ ∀ i j, twoRows.get i j = b.get j i := by
  have written : twoRows.writeRowMajor [7, 7, 7, 7, 7, 7] = .ok [1, 2, 3, 4, 5, 6] := rfl
  have columns : twoRows.transpose.writeRowMajor [0, 8, 0, 8, 0, 8] = .ok [1, 4, 2, 5, 3, 6] := rfl
  obtain ⟨_, _, _, _, back, forth, transposed⟩ := row_major_round_trip twoRows
  have read := back _ _ written
  obtain ⟨out, b, turned, _, found, same⟩ := transposed [0, 8, 0, 8, 0, 8] rfl
  cases columns.symm.trans turned
  exact ⟨written, read, forth _ _ read rfl, b, found, same⟩

end LandmarkMap
