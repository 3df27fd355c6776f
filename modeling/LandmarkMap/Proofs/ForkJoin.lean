import LandmarkMap.Proofs.Crew

set_option autoImplicit false

namespace LandmarkMap

variable {α τ ρ κ : Type}

theorem split_batch_nonempty (items : List τ) (length : Nat) (positive : 0 < length) (b : Batch)
    (member : b ∈ Batch.split items.length length) : b.slice items ≠ [] := by
  obtain ⟨i, inside, rfl⟩ := List.mem_map.mp member
  have first := Batch.batch_starts_inside items.length length i positive (List.mem_range.mp inside)
  rw [← List.length_pos_iff, Batch.slice, List.length_zipIdx, List.length_take, List.length_drop]
  dsimp only
  omega

theorem planned_batch_nonempty (threads : Nat) (always : Bool) (items : List τ)
    (batches : List Batch) (pooled : Batch.runsSerially items.length threads always = false)
    (planned : (Batch.plan items.length threads always : Except (Fault α) _) = .ok batches) :
    ∀ b ∈ batches, b.slice items ≠ [] := by
  obtain ⟨_, planned⟩ := (require_bind_ok _ _ _ _).mp planned
  by_cases empty : items.length = 0
  · rw [if_pos empty] at planned
    cases planned
    intro b member
    cases member
  · rw [if_neg empty, pooled] at planned
    cases planned
    exact split_batch_nonempty items _ (Batch.least_length_positive _ _)

-- Where the progress counter has to end: it is not used where the caller works alone.
def Crew.expected (threads : Nat) (always : Bool) (items : List τ) : Nat :=
  if Batch.runsSerially items.length threads always then 0 else items.length

theorem fresh_outcome (job : Job α τ ρ κ) (b : Batch) (items : List τ) (reports : Bool) :
    (Worker.fresh b items reports).outcome job = b.run job.work items := id_map _

theorem start_sound (job : Job α τ ρ κ) (threads : Nat) (always : Bool) (items : List τ)
    (positive : 0 < threads) :
    ∃ crew : Crew τ ρ κ, (Crew.start threads always items : Except (Fault α) _) = .ok crew ∧
      crew.Sound job items (mapBatches threads always job.work items)
        (Crew.expected threads always items) := by
  obtain ⟨batches, planned, covered⟩ := Batch.plan_covers (α := α) threads always items positive
  refine ⟨_, by rw [Crew.start, planned, ok_bind]; rfl, ?_⟩
  constructor
  · simp only [Crew.outcome, mapBatches, planned, ok_bind, List.mapM_map, Function.comp_def,
      fresh_outcome, map_eq_pure_bind]
  · simp only [Worker.fresh, List.nil_append, List.flatMap_map, covered, List.Perm.refl]
  · simp [Crew.Balanced, Crew.results, Worker.fresh, List.flatMap_eq_nil_iff.mpr]
  · have lengths : (batches.map fun b => (b.slice items).length).sum = items.length := by
      rw [← List.length_flatMap, covered, List.length_zipIdx]
    cases serial : Batch.runsSerially items.length threads always with
    | true => simp [Progress.start, Crew.expected, Worker.unreported, Worker.fresh, serial, Function.comp_def]
    | false => simpa [Progress.start, Crew.expected, Worker.unreported, Worker.fresh, serial, Function.comp_def] using lengths
  · refine ⟨?_, List.nodup_nil, ?_, .inl rfl⟩
    · intro w member reports
      obtain ⟨b, listed, rfl⟩ := List.mem_map.mp member
      have pooled : Batch.runsSerially items.length threads always = false := by
        simpa [Worker.fresh] using reports
      have some := List.length_pos_iff.mpr
        (planned_batch_nonempty threads always items batches pooled planned b listed)
      exact Nat.lt_of_lt_of_le some (Nat.le_add_left _ _)
    · intro answer member
      cases member

theorem run_sound (job : Job α τ ρ κ) (items : List τ) (serial : Except (Fault α) (List ρ))
    (expected : Nat) (s final : Crew τ ρ κ) (schedule : List Nat)
    (sound : s.Sound job items serial expected) (done : s.run job schedule = .ok final) :
    final.Sound job items serial expected :=
  fold_keeps _ (fun _ s => s.Sound job items serial expected) s sound
    (fun _ i before after sofar stepped => step_keeps_sound job items serial expected before after i sofar stepped)
    schedule final done

theorem finished_outcome (job : Job α τ ρ κ) (s : Crew τ ρ κ) (finished : s.Finished) :
    s.outcome job = .ok s.results := by
  have each : s.workers.mapM (Worker.outcome job) = .ok (s.workers.map (·.results)) := by
    rw [map_m_ok, List.forall₂_map_right_iff, List.forall₂_same]
    intro w member
    rw [Worker.outcome, (finished w member).2.1]
    exact congrArg Except.ok (List.append_nil _)
  rw [Crew.outcome, each]
  exact congrArg Except.ok List.flatMap_def.symm

-- The progress counter has counted every item, and no two reports got the same answer.
structure Crew.Accounted (items : Nat) (s : Crew τ ρ κ) : Prop where
  processed : s.progress.processed = items
  distinct : s.answers.Nodup
  highest : s.answers.max? = some items

theorem finished_progress (job : Job α τ ρ κ) (items : List τ) (serial : Except (Fault α) (List ρ))
    (expected : Nat) (s : Crew τ ρ κ) (sound : s.Sound job items serial expected)
    (finished : s.Finished) : s.progress.processed = expected := by
  have none : (s.workers.map Worker.unreported).sum = 0 := by
    refine List.sum_eq_zero_iff_forall_eq_nat.mpr fun n member => ?_
    obtain ⟨w, there, rfl⟩ := List.mem_map.mp member
    rw [Worker.unreported, (finished w there).2.2]
    rfl
  have total := sound.processed
  rwa [none, Nat.add_zero] at total

theorem finished_accounted (job : Job α τ ρ κ) (items : List τ) (serial : Except (Fault α) (List ρ))
    (s : Crew τ ρ κ) (sound : s.Sound job items serial items.length) (finished : s.Finished)
    (some : items ≠ []) : s.Accounted items.length := by
  have processed := finished_progress job items serial items.length s sound finished
  refine ⟨processed, sound.climbing.distinct, List.max?_eq_some_iff.mpr ⟨?_, ?_⟩⟩
  · rcases sound.climbing.latest with none | reported
    · exact absurd (List.length_eq_zero_iff.mp (processed.symm.trans none)) some
    · exact processed ▸ reported
  · intro answer member
    exact processed ▸ sound.climbing.bounded answer member

-- What a crew hands back when all its workers have finished.
structure Crew.Delivers (job : Job α τ ρ κ) (threads : Nat) (always : Bool) (items : List τ)
    (serial : List ρ) (s : Crew τ ρ κ) : Prop where
  results : s.results = serial
  once : s.calls.Perm items.zipIdx
  counted : s.counted.Perm (serial.flatMap job.counts)
  accounted : items ≠ [] → Batch.runsSerially items.length threads always = false →
    s.Accounted items.length

theorem finished_delivers (job : Job α τ ρ κ) (threads : Nat) (always : Bool) (items : List τ)
    (results : List ρ) (s : Crew τ ρ κ)
    (sound : s.Sound job items (.ok results) (Crew.expected threads always items))
    (finished : s.Finished) : s.Delivers job threads always items results := by
  have same : s.results = results :=
    Except.ok.inj ((finished_outcome job s finished).symm.trans sound.outcome)
  refine ⟨same, ?_, ?_, ?_⟩
  · have none : s.workers.flatMap (·.rest) = [] :=
      List.flatMap_eq_nil_iff.mpr fun w member => (finished w member).2.1
    simpa only [none, List.append_nil] using sound.calls
  · have none : s.workers.flatMap (·.owed) = [] :=
      List.flatMap_eq_nil_iff.mpr fun w member => (finished w member).1
    simpa only [Crew.Balanced, none, List.append_nil, same] using sound.balanced
  · intro some pooled
    rw [Crew.expected, pooled] at sound
    exact finished_accounted job items _ s sound finished some

theorem paid_due (job : Job α τ ρ κ) (s after : Crew τ ρ κ) (left right : List (Worker τ ρ κ))
    (w new : Worker τ ρ κ) (here : s.workers = left ++ w :: right)
    (now : after.workers = left ++ new :: right) (paid : new.due job = w.due job - 1) (j : Nat) :
    after.due job j = if j = left.length then s.due job j - 1 else s.due job j := by
  have replaced : after.workers = s.workers.set left.length new := by
    rw [here, now, List.set_append_right _ _ (Nat.le_refl _), Nat.sub_self, List.set_cons_zero]
  by_cases same : j = left.length
  · subst same
    simp [Crew.due, here, now, paid]
  · rw [if_neg same, Crew.due, replaced, List.getElem?_set_ne (Ne.symm same), Crew.due]

-- A step pays one of the steps that its worker has still to take.
theorem moves_pay_due (job : Job α τ ρ κ) (s after : Crew τ ρ κ) (i j : Nat)
    (moves : s.Moves job i after) :
    after.due job j = if j = i then s.due job j - 1 else s.due job j := by
  cases moves with
  | idle finished =>
      by_cases here : j = i
      · subst here
        rw [if_pos rfl, Crew.due]
        cases found : s.workers[j]? with
        | none => rfl
        | some w =>
            obtain ⟨owed, rest, reports⟩ := finished w found
            simp [Worker.due, owed, rest, reports]
      · rw [if_neg here]
  | count left right w counter owed place here owes =>
      subst place
      refine paid_due job s _ left right w { w with owed } here rfl ?_ j
      simp only [Worker.due, owes, List.length_cons]
      omega
  | call left right w item position rest result place here free next worked =>
      subst place
      refine paid_due job s _ left right w
        ⟨w.results ++ [result], job.counts result, rest, w.reports⟩ here rfl ?_ j
      simp only [Worker.due, Worker.cost, free, next, worked, List.length_nil, List.map_cons, List.sum_cons]
      omega
  | report left right w progress place here free empty reports added =>
      subst place
      refine paid_due job s _ left right w { w with reports := false } here rfl ?_ j
      simp [Worker.due, free, empty, reports]

theorem run_pays_due (job : Job α τ ρ κ) (s final : Crew τ ρ κ) (schedule : List Nat)
    (done : s.run job schedule = .ok final) (j : Nat) :
    final.due job j = s.due job j - schedule.count j := by
  refine fold_keeps _ (fun history s' => ∀ j, s'.due job j = s.due job j - history.count j) s
    (fun _ => rfl) ?_ schedule final done j
  intro history i before after sofar stepped j
  rw [moves_pay_due job before after i j (step_moves job before after i stepped), sofar j,
    List.count_append, List.count_singleton]
  by_cases same : j = i
  · simp only [same, if_true, beq_self_eq_true]
    omega
  · simp [same, Ne.symm same]

theorem due_nothing (job : Job α τ ρ κ) (w : Worker τ ρ κ) : w.due job = 0 ↔ w.Finished := by
  unfold Worker.due Worker.Finished
  have costs : ∀ item position, 0 < Worker.cost job item position := by
    intro item position
    unfold Worker.cost
    split
    · exact Nat.succ_pos _
    · exact Nat.one_pos
  constructor
  · intro nothing
    obtain ⟨results, owed, rest, reports⟩ := w
    refine ⟨List.length_eq_zero_iff.mp (by omega), ?_, ?_⟩
    · cases rest with
      | nil => rfl
      | cons call rest =>
          have one := costs call.1 call.2
          simp only [List.map_cons, List.sum_cons] at nothing
          omega
    · cases reports with
      | false => rfl
      | true =>
          simp only [Bool.toNat_true] at nothing
          omega
  · rintro ⟨owed, rest, reports⟩
    simp [owed, rest, reports]

theorem finished_due (job : Job α τ ρ κ) (s : Crew τ ρ κ) :
    s.Finished ↔ ∀ j, s.due job j = 0 := by
  constructor
  · intro finished j
    unfold Crew.due
    cases found : s.workers[j]? with
    | none => rfl
    | some w => exact (due_nothing job w).mpr (finished w (List.mem_of_getElem? found))
  · intro nothing w member
    obtain ⟨j, found⟩ := List.mem_iff_getElem?.mp member
    have here := nothing j
    rw [Crew.due, found] at here
    exact (due_nothing job w).mp here

-- A fault in any item that is left would be a fault of the walk over the list.
theorem sound_work (job : Job α τ ρ κ) (s : Crew τ ρ κ) (results : List ρ)
    (outcome : s.outcome job = .ok results) (w : Worker τ ρ κ) (member : w ∈ s.workers)
    (call : τ × Nat) (left : call ∈ w.rest) : ∃ result, job.work call.2 call.1 = .ok result := by
  refine faultless_has_value _ fun broken => ?_
  have worker : Faults (w.outcome job) :=
    (map_faults _ _).mpr ((map_m_faults _ _).mpr ⟨call, left, broken⟩)
  have crew : Faults (s.outcome job) := (map_faults _ _).mpr ((map_m_faults _ _).mpr ⟨w, member, worker⟩)
  rw [outcome] at crew
  exact ok_never_faults results crew

theorem sound_report (s : Crew τ ρ κ) (total : Nat)
    (processed : s.progress.processed + (s.workers.map Worker.unreported).sum = total)
    (fits : total < UInt64.size) (w : Worker τ ρ κ) (member : w ∈ s.workers)
    (reports : w.reports = true) :
    ∃ progress, (s.progress.add w.results.length : Except (Fault α) Progress) = .ok progress := by
  obtain ⟨left, right, here⟩ := List.append_of_mem member
  have share : w.unreported = w.results.length + w.rest.length := if_pos reports
  simp only [here, List.map_append, List.map_cons, List.sum_append, List.sum_cons, share] at processed
  have room : s.progress.processed + w.results.length < UInt64.size := by omega
  exact ⟨_, by rw [Progress.add, Word.add, if_pos room]; rfl⟩

theorem sound_steps (job : Job α τ ρ κ) (items : List τ) (results : List ρ) (expected : Nat)
    (s : Crew τ ρ κ) (i : Nat) (sound : s.Sound job items (.ok results) expected)
    (fits : expected < UInt64.size) : ∃ after, s.step job i = .ok after := by
  unfold Crew.step
  cases found : s.workers[i]? with
  | none => exact ⟨s, rfl⟩
  | some w =>
      have member := List.mem_of_getElem? found
      have work := sound_work job s results sound.outcome w member
      have report := sound_report (α := α) s expected sound.processed fits w member
      obtain ⟨done, owed, rest, reports⟩ := w
      cases owed with
      | cons counter owed => exact ⟨_, rfl⟩
      | nil =>
          cases rest with
          | cons call rest =>
              obtain ⟨result, worked⟩ := work call List.mem_cons_self
              exact ⟨_, by dsimp only; rw [worked, ok_bind]; rfl⟩
          | nil =>
              cases reports with
              | false => exact ⟨s, rfl⟩
              | true =>
                  obtain ⟨progress, added⟩ := report rfl
                  exact ⟨_, by dsimp only; rw [added, ok_bind]; rfl⟩

-- No schedule brings the crew to a fault, and one that names every worker often enough lets all of
-- them finish.
def Crew.Completes (job : Job α τ ρ κ) (crew : Crew τ ρ κ) : Prop :=
  ∀ schedule, ∃ final, crew.run job schedule = .ok final ∧
    (final.Finished ↔ ∀ i, crew.due job i ≤ schedule.count i)

theorem sound_completes (job : Job α τ ρ κ) (items : List τ) (results : List ρ) (expected : Nat)
    (s : Crew τ ρ κ) (sound : s.Sound job items (.ok results) expected)
    (fits : expected < UInt64.size) : s.Completes job := by
  intro schedule
  obtain ⟨final, done, _⟩ := fold_reaches (fun s i => s.step job i)
    (fun s => s.Sound job items (.ok results) expected) schedule
    (fun before holds i _ => by
      obtain ⟨after, stepped⟩ := sound_steps job items results expected before i holds fits
      exact ⟨after, stepped, step_keeps_sound job items _ expected before after i holds stepped⟩)
    s sound
  refine ⟨final, done, ?_⟩
  rw [finished_due job final]
  simp only [run_pays_due job s final schedule done, Nat.sub_eq_zero_iff_le]

-- What holds of a crew that has finished, whatever the order in which its workers took their steps.
-- A list in memory has fewer items than a word counts, so that the last clause is about all lists.
def Job.EverySchedule (job : Job α τ ρ κ) (threads : Nat) (always : Bool) (items : List τ)
    (holds : Crew τ ρ κ → Prop) : Prop :=
  ∃ crew : Crew τ ρ κ, (Crew.start threads always items : Except (Fault α) _) = .ok crew ∧
    (∀ schedule final, crew.run job schedule = .ok final → final.Finished → holds final) ∧
    (items.length < UInt64.size → crew.Completes job)

theorem every_schedule (job : Job α τ ρ κ) (threads : Nat) (always : Bool) (items : List τ)
    (results : List ρ) (positive : 0 < threads)
    (serial : mapBatches threads always job.work items = .ok results) :
    job.EverySchedule threads always items (·.Delivers job threads always items results) := by
  obtain ⟨crew, started, sound⟩ := start_sound job threads always items positive
  rw [serial] at sound
  refine ⟨crew, started, ?_, ?_⟩
  · intro schedule final done finished
    exact finished_delivers job threads always items results final
      (run_sound job items _ _ crew final schedule sound done) finished
  · intro fits
    refine sound_completes job items results _ crew sound (Nat.lt_of_le_of_lt ?_ fits)
    unfold Crew.expected
    split
    · exact Nat.zero_le _
    · exact Nat.le_refl _

theorem every_schedule_weaken (job : Job α τ ρ κ) (threads : Nat) (always : Bool) (items : List τ)
    (strong weak : Crew τ ρ κ → Prop) (implies : ∀ s, strong s → weak s)
    (holds : job.EverySchedule threads always items strong) :
    job.EverySchedule threads always items weak := by
  obtain ⟨crew, started, ends, completes⟩ := holds
  exact ⟨crew, started, fun schedule final done finished =>
    implies final (ends schedule final done finished), completes⟩

-- Work that cannot fail and raises no counter.
def Job.plain (work : Nat → τ → ρ) : Job α τ ρ Empty :=
  ⟨fun position item => .ok (work position item), fun _ => []⟩

theorem plain_results (threads : Nat) (always : Bool) (work : Nat → τ → ρ) (items : List τ)
    (positive : 0 < threads) :
    mapBatches threads always (Job.plain (α := α) work).work items = .ok (items.mapIdx work) := by
  rw [map_batches_serial _ _ _ _ positive, map_m_ok, List.mapIdx_eq_zipIdx_map,
    List.forall₂_map_right_iff, List.forall₂_same]
  intro call _
  rfl

theorem fork_join_serial (work : Nat → τ → τ) (items : List τ) (threads : Nat) (always : Bool)
    (positive : 0 < threads) :
    (Job.plain (α := α) work).EverySchedule threads always items fun final =>
      final.calls.Perm items.zipIdx ∧ final.results = items.mapIdx work ∧
        mapBatches threads always (Job.plain (α := α) work).work items = .ok final.results ∧
        (items ≠ [] → Batch.runsSerially items.length threads always = false →
          final.Accounted items.length) := by
  have serial := plain_results (α := α) threads always work items positive
  refine every_schedule_weaken _ _ _ _ _ _ ?_ (every_schedule _ threads always items _ positive serial)
  intro final delivered
  refine ⟨delivered.once, delivered.results, ?_, delivered.accounted⟩
  rw [delivered.results]
  exact serial

-- Two workers take turns over batches of three and two items, and the shorter one reports first.
theorem two_workers_any_order :
    ∃ crew final : Crew Nat Nat Empty,
      (Crew.start 2 true [10, 20, 30, 40, 50] : Except (Fault Unit) _) = .ok crew ∧
      crew.run (Job.plain (α := Unit) (· + ·)) [1, 0, 0, 1, 1, 0, 0] = .ok final ∧
      final.results = [10, 21, 32, 43, 54] ∧ final.answers = [2, 5] ∧
      final.calls.Perm [(10, 0), (20, 1), (30, 2), (40, 3), (50, 4)] ∧ final.Accounted 5 := by
  obtain ⟨crew, started, results, _⟩ :=
    fork_join_serial (α := Unit) (· + ·) [10, 20, 30, 40, 50] 2 true (by decide)
  cases started
  have finished : ∀ w ∈ [⟨[10, 21, 32], [], [], false⟩, ⟨[43, 54], [], [], false⟩],
      (w : Worker Nat Nat Empty).Finished := by simp [Worker.Finished]
  obtain ⟨once, serial, _, accounted⟩ := results [1, 0, 0, 1, 1, 0, 0] _ rfl finished
  exact ⟨_, _, rfl, rfl, serial, rfl, once, accounted (by decide) (by decide)⟩

end LandmarkMap
