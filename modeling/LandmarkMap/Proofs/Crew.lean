import Mathlib.Algebra.GroupWithZero.Nat
import Mathlib.Data.List.Nodup
import LandmarkMap.Proofs.Batches

set_option autoImplicit false

namespace LandmarkMap

variable {α τ ρ κ : Type}

structure Job (α τ ρ κ : Type) where
  work : Nat → τ → Except (Fault α) ρ
  -- The shared counters that a result raises, one after the other.
  counts : ρ → List κ

-- A batch in the hands of a thread.
structure Worker (τ ρ κ : Type) where
  results : List ρ
  -- Counters that the last result has still to raise.
  owed : List κ
  rest : List (τ × Nat)
  -- Whether the batch has still to be reported as processed.
  reports : Bool

-- The threads and what they share.
structure Crew (τ ρ κ : Type) where
  workers : List (Worker τ ρ κ)
  -- What the work was called for, in the order of the calls.
  calls : List (τ × Nat)
  -- Counters in the order in which they were raised.
  counted : List κ
  progress : Progress
  -- What the reports were answered with.
  answers : List Nat

namespace Worker

def fresh (b : Batch) (items : List τ) (reports : Bool) : Worker τ ρ κ :=
  ⟨[], [], b.slice items, reports⟩

def Finished (w : Worker τ ρ κ) : Prop := w.owed = [] ∧ w.rest = [] ∧ w.reports = false

-- The results that the worker will have if it is left alone.
def outcome (job : Job α τ ρ κ) (w : Worker τ ρ κ) : Except (Fault α) (List ρ) :=
  (w.results ++ ·) <$> w.rest.mapM fun (item, position) => job.work position item

def unreported (w : Worker τ ρ κ) : Nat :=
  if w.reports then w.results.length + w.rest.length else 0

-- How many steps handling an item takes.
def cost (job : Job α τ ρ κ) (item : τ) (position : Nat) : Nat :=
  match job.work position item with
  | .ok result => (job.counts result).length + 1
  | .error _ => 1

-- How many steps the worker has still to take.
def due (job : Job α τ ρ κ) (w : Worker τ ρ κ) : Nat :=
  w.owed.length + (w.rest.map fun (item, position) => cost job item position).sum + w.reports.toNat

end Worker

namespace Crew

-- One worker for each batch. Where the caller works alone nothing is reported; a single thread also
-- stands for the case in which no pool of threads can be had.
def start (threads : Nat) (always : Bool) (items : List τ) : Except (Fault α) (Crew τ ρ κ) := do
  let batches ← Batch.plan items.length threads always
  let reports := !Batch.runsSerially items.length threads always
  return ⟨batches.map fun b => Worker.fresh b items reports, [], [], Progress.start items.length, []⟩

-- The worker at a position takes its next step: it raises a counter that it owes, handles the next
-- item, or reports its batch. A finished worker does nothing.
def step (job : Job α τ ρ κ) (s : Crew τ ρ κ) (i : Nat) : Except (Fault α) (Crew τ ρ κ) :=
  match s.workers[i]? with
  | none => .ok s
  | some w =>
      match w.owed, w.rest, w.reports with
      | counter :: owed, _, _ => .ok { s with
          workers := s.workers.set i { w with owed }
          counted := s.counted ++ [counter] }
      | [], (item, position) :: rest, _ => do
          let result ← job.work position item
          return { s with
            workers := s.workers.set i ⟨w.results ++ [result], job.counts result, rest, w.reports⟩
            calls := s.calls ++ [(item, position)] }
      | [], [], true => do
          let progress ← s.progress.add w.results.length
          return { s with
            workers := s.workers.set i { w with reports := false }
            progress
            answers := s.answers ++ [progress.processed] }
      | [], [], false => .ok s

-- A schedule names the worker that takes the next step.
def run (job : Job α τ ρ κ) (schedule : List Nat) (s : Crew τ ρ κ) :
    Except (Fault α) (Crew τ ρ κ) :=
  schedule.foldlM (fun s i => s.step job i) s

def Finished (s : Crew τ ρ κ) : Prop := ∀ w ∈ s.workers, w.Finished

def results (s : Crew τ ρ κ) : List ρ := s.workers.flatMap (·.results)

def outcome (job : Job α τ ρ κ) (s : Crew τ ρ κ) : Except (Fault α) (List ρ) :=
  List.flatten <$> s.workers.mapM (Worker.outcome job)

-- What is due at a position, nothing where there is no worker.
def due (job : Job α τ ρ κ) (s : Crew τ ρ κ) (i : Nat) : Nat :=
  (s.workers[i]?.map (Worker.due job)).getD 0

-- All that a step can be. The workers to the left and to the right stay as they are.
inductive Moves (job : Job α τ ρ κ) (s : Crew τ ρ κ) (i : Nat) : Crew τ ρ κ → Prop where
  | idle (finished : ∀ w, s.workers[i]? = some w → w.Finished) : Moves job s i s
  | count (left right : List (Worker τ ρ κ)) (w : Worker τ ρ κ) (counter : κ) (owed : List κ)
      (place : left.length = i) (here : s.workers = left ++ w :: right)
      (owes : w.owed = counter :: owed) :
      Moves job s i { s with
        workers := left ++ { w with owed } :: right
        counted := s.counted ++ [counter] }
  | call (left right : List (Worker τ ρ κ)) (w : Worker τ ρ κ) (item : τ) (position : Nat)
      (rest : List (τ × Nat)) (result : ρ)
      (place : left.length = i) (here : s.workers = left ++ w :: right)
      (free : w.owed = []) (next : w.rest = (item, position) :: rest)
      (worked : job.work position item = .ok result) :
      Moves job s i { s with
        workers := left ++ ⟨w.results ++ [result], job.counts result, rest, w.reports⟩ :: right
        calls := s.calls ++ [(item, position)] }
  | report (left right : List (Worker τ ρ κ)) (w : Worker τ ρ κ) (progress : Progress)
      (place : left.length = i) (here : s.workers = left ++ w :: right)
      (free : w.owed = []) (empty : w.rest = []) (reports : w.reports = true)
      (added : (s.progress.add w.results.length : Except (Fault α) Progress) = .ok progress) :
      Moves job s i { s with
        workers := left ++ { w with reports := false } :: right
        progress
        answers := s.answers ++ [progress.processed] }

end Crew

theorem found_splits (items : List τ) (i : Nat) (item : τ) (found : items[i]? = some item) :
    ∃ left right, left.length = i ∧ items = left ++ item :: right ∧
      ∀ new, items.set i new = left ++ new :: right := by
  induction items generalizing i with
  | nil => cases found
  | cons first rest ih =>
      cases i with
      | zero =>
          cases found
          exact ⟨[], rest, rfl, rfl, fun _ => rfl⟩
      | succ i =>
          obtain ⟨left, right, place, same, replaced⟩ := ih i found
          refine ⟨first :: left, right, congrArg (· + 1) place, congrArg (first :: ·) same, ?_⟩
          intro new
          exact congrArg (first :: ·) (replaced new)

theorem step_moves (job : Job α τ ρ κ) (s after : Crew τ ρ κ) (i : Nat)
    (done : s.step job i = .ok after) : s.Moves job i after := by
  unfold Crew.step at done
  cases found : s.workers[i]? with
  | none =>
      rw [found] at done
      cases done
      exact .idle fun w there => by cases found.symm.trans there
  | some w =>
      obtain ⟨left, right, place, here, replaced⟩ := found_splits s.workers i w found
      simp only [found, replaced] at done
      obtain ⟨results, owed, rest, reports⟩ := w
      cases owed with
      | cons counter owed =>
          cases done
          exact .count left right _ counter owed place here rfl
      | nil =>
          cases rest with
          | cons call rest =>
              obtain ⟨result, worked, done⟩ := (bind_ok _ _ _).mp done
              cases (pure_ok _ _).mp done
              exact .call left right _ call.1 call.2 rest result place here rfl rfl worked
          | nil =>
              cases reports with
              | true =>
                  obtain ⟨progress, added, done⟩ := (bind_ok _ _ _).mp done
                  cases (pure_ok _ _).mp done
                  exact .report left right _ progress place here rfl rfl rfl added
              | false =>
                  cases done
                  refine .idle fun w there => ?_
                  cases found.symm.trans there
                  exact ⟨rfl, rfl, rfl⟩

-- What is done and what is left make up the same results throughout.
theorem moves_keep_outcome (job : Job α τ ρ κ) (s after : Crew τ ρ κ) (i : Nat)
    (moves : s.Moves job i after) : after.outcome job = s.outcome job := by
  cases moves with
  | idle _ => rfl
  | count left right w counter owed place here owes =>
      simp only [Crew.outcome, here, List.mapM_append, List.mapM_cons, Worker.outcome]
  | call left right w item position rest result place here free next worked =>
      have same : Worker.outcome job ⟨w.results ++ [result], job.counts result, rest, w.reports⟩ =
          w.outcome job := by
        simp only [Worker.outcome, next, List.mapM_cons, worked, ok_bind]
        cases rest.mapM fun (item, position) => job.work position item with
        | error fault => rfl
        | ok others => exact congrArg Except.ok (List.append_assoc _ _ _)
      simp only [Crew.outcome, here, List.mapM_append, List.mapM_cons, same]
  | report left right w progress place here free empty reports added =>
      simp only [Crew.outcome, here, List.mapM_append, List.mapM_cons, Worker.outcome]

-- An item is either called for or left.
theorem moves_keep_calls (job : Job α τ ρ κ) (s after : Crew τ ρ κ) (i : Nat)
    (moves : s.Moves job i after) :
    (after.calls ++ after.workers.flatMap (·.rest)).Perm (s.calls ++ s.workers.flatMap (·.rest)) := by
  classical
  cases moves with
  | idle _ => exact .refl _
  | count left right w counter owed place here owes =>
      simp only [here, List.flatMap_append, List.flatMap_cons, List.Perm.refl]
  | call left right w item position rest result place here free next worked =>
      rw [List.perm_iff_count]
      intro call
      simp only [here, next, List.flatMap_append, List.flatMap_cons, List.count_append,
        List.count_cons, List.count_nil]
      omega
  | report left right w progress place here free empty reports added =>
      simp only [here, List.flatMap_append, List.flatMap_cons, List.Perm.refl]

-- A counter that a result raises is either raised or owed.
def Crew.Balanced (job : Job α τ ρ κ) (s : Crew τ ρ κ) : Prop :=
  (s.counted ++ s.workers.flatMap (·.owed)).Perm (s.results.flatMap job.counts)

theorem moves_keep_balance (job : Job α τ ρ κ) (s after : Crew τ ρ κ) (i : Nat)
    (balanced : s.Balanced job) (moves : s.Moves job i after) : after.Balanced job := by
  classical
  unfold Crew.Balanced Crew.results at *
  cases moves with
  | idle _ => exact balanced
  | count left right w counter owed place here owes =>
      rw [List.perm_iff_count] at balanced ⊢
      intro other
      have old := balanced other
      simp only [here, owes, List.flatMap_append, List.flatMap_cons, List.count_append,
        List.count_cons, List.count_nil] at old ⊢
      omega
  | call left right w item position rest result place here free next worked =>
      rw [List.perm_iff_count] at balanced ⊢
      intro other
      have old := balanced other
      simp only [here, free, List.flatMap_append, List.flatMap_cons, List.flatMap_nil,
        List.count_append, List.count_nil] at old ⊢
      omega
  | report left right w progress place here free empty reports added =>
      simpa only [here, List.flatMap_append, List.flatMap_cons] using balanced

theorem add_processed (p q : Progress) (n : Nat)
    (added : (p.add n : Except (Fault α) Progress) = .ok q) :
    q.processed = p.processed + n ∧ p.processed + n < UInt64.size := by
  obtain ⟨sum, summed, done⟩ := (bind_ok _ _ _).mp added
  cases (pure_ok _ _).mp done
  unfold Word.add at summed
  split at summed
  · cases summed
    exact ⟨rfl, by assumption⟩
  · cases summed

-- Processed items are either reported or in a batch that is still to be reported.
theorem moves_keep_processed (job : Job α τ ρ κ) (s after : Crew τ ρ κ) (i : Nat)
    (moves : s.Moves job i after) :
    after.progress.processed + (after.workers.map Worker.unreported).sum =
      s.progress.processed + (s.workers.map Worker.unreported).sum := by
  cases moves with
  | idle _ => rfl
  | count left right w counter owed place here owes =>
      simp only [here, List.map_append, List.map_cons, Worker.unreported]
  | call left right w item position rest result place here free next worked =>
      have same : Worker.unreported ⟨w.results ++ [result], job.counts result, rest, w.reports⟩ =
          w.unreported := by
        simp only [Worker.unreported, next, List.length_append, List.length_cons, List.length_nil]
        congr 1
        omega
      simp only [here, List.map_append, List.map_cons, same]
  | report left right w progress place here free empty reports added =>
      have counted := (add_processed _ _ _ added).1
      simp only [here, List.map_append, List.map_cons, List.sum_append, List.sum_cons,
        Worker.unreported, empty, reports, List.length_nil, if_true, Bool.false_eq_true, if_false]
      omega

-- Every report adds items, so that its answer is higher than all before it.
structure Crew.Climbing (s : Crew τ ρ κ) : Prop where
  nonempty : ∀ w ∈ s.workers, w.reports = true → 0 < w.results.length + w.rest.length
  distinct : s.answers.Nodup
  bounded : ∀ answer ∈ s.answers, answer ≤ s.progress.processed
  latest : s.progress.processed = 0 ∨ s.progress.processed ∈ s.answers

theorem moves_keep_climbing (job : Job α τ ρ κ) (s after : Crew τ ρ κ) (i : Nat)
    (climbing : s.Climbing) (moves : s.Moves job i after) : after.Climbing := by
  obtain ⟨nonempty, distinct, bounded, latest⟩ := climbing
  cases moves with
  | idle _ => exact ⟨nonempty, distinct, bounded, latest⟩
  | count left right w counter owed place here owes =>
      refine ⟨?_, distinct, bounded, latest⟩
      simp only [here, List.forall_mem_append, List.forall_mem_cons] at nonempty ⊢
      exact nonempty
  | call left right w item position rest result place here free next worked =>
      refine ⟨?_, distinct, bounded, latest⟩
      simp only [here, List.forall_mem_append, List.forall_mem_cons] at nonempty ⊢
      refine ⟨nonempty.1, fun _ => ?_, nonempty.2.2⟩
      rw [List.length_append]
      exact Nat.lt_of_lt_of_le Nat.one_pos (by simp; omega)
  | report left right w progress place here free empty reports added =>
      have higher : s.progress.processed < progress.processed := by
        have some := nonempty w (here ▸ List.mem_append_right _ List.mem_cons_self) reports
        rw [empty, List.length_nil] at some
        have counted := (add_processed _ _ _ added).1
        omega
      constructor
      · simp only [here, List.forall_mem_append, List.forall_mem_cons] at nonempty ⊢
        exact ⟨nonempty.1, fun reported => absurd reported Bool.false_ne_true, nonempty.2.2⟩
      · rw [← List.concat_eq_append]
        exact distinct.concat fun member => Nat.not_lt.mpr (bounded _ member) higher
      · intro answer member
        rcases List.mem_append.mp member with old | new
        · exact Nat.le_trans (bounded answer old) (Nat.le_of_lt higher)
        · exact Nat.le_of_eq (List.mem_singleton.mp new)
      · exact .inr (List.mem_append_right _ List.mem_cons_self)

-- What holds of a crew from its start on: `serial` is the result of one walk over the items, and
-- `expected` is the number of items where batches are reported.
structure Crew.Sound (job : Job α τ ρ κ) (items : List τ) (serial : Except (Fault α) (List ρ))
    (expected : Nat) (s : Crew τ ρ κ) : Prop where
  outcome : s.outcome job = serial
  calls : (s.calls ++ s.workers.flatMap (·.rest)).Perm items.zipIdx
  balanced : s.Balanced job
  processed : s.progress.processed + (s.workers.map Worker.unreported).sum = expected
  climbing : s.Climbing

theorem step_keeps_sound (job : Job α τ ρ κ) (items : List τ) (serial : Except (Fault α) (List ρ))
    (expected : Nat) (s after : Crew τ ρ κ) (i : Nat) (sound : s.Sound job items serial expected)
    (done : s.step job i = .ok after) : after.Sound job items serial expected := by
  have moves := step_moves job s after i done
  constructor
  · exact (moves_keep_outcome job s after i moves).trans sound.outcome
  · exact (moves_keep_calls job s after i moves).trans sound.calls
  · exact moves_keep_balance job s after i sound.balanced moves
  · exact (moves_keep_processed job s after i moves).trans sound.processed
  · exact moves_keep_climbing job s after i sound.climbing moves

end LandmarkMap
