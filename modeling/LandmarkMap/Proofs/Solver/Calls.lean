import LandmarkMap.Proofs.Outcome

set_option autoImplicit false

namespace LandmarkMap

variable {α τ ρ ι : Type}

-- Whether a call was accepted, whatever it wrote.
def accepts (call : Except (Fault α) (Bool × τ)) : Except (Fault α) Bool := Prod.fst <$> call

-- What an accepted call wrote. A refusal ends the run.
def accepted (call : Except (Fault α) (Bool × τ)) : Except (Failure α) τ :=
  match call with
  | .ok (true, result) => .ok result
  | .ok (false, _) => .error (.error .evaluationFailed)
  | .error fault => .error (.fault fault)

theorem checked_call (call : Except (Fault α) (Bool × τ)) (next : τ → Except (Failure α) ρ) :
    (do
      let (answer, result) ← (call : Except (Failure α) (Bool × τ))
      if answer then next result else throw (.error .evaluationFailed)) = accepted call >>= next := by
  match call with
  | .ok (true, _) => rfl
  | .ok (false, _) => rfl
  | .error _ => rfl

theorem accepted_map (call : Except (Fault α) (Bool × τ)) (f : τ → ρ) :
    accepted (Prod.map id f <$> call) = f <$> accepted call := by
  match call with
  | .ok (true, _) => rfl
  | .ok (false, _) => rfl
  | .error _ => rfl

theorem accepted_ok (call : Except (Fault α) (Bool × τ)) (result : τ) :
    accepted call = .ok result ↔ call = .ok (true, result) := by
  match call with
  | .ok (true, other) => simp [accepted]
  | .ok (false, _) => simp [accepted]
  | .error _ => simp [accepted]

-- Calls that are made one after the other, up to the first that is not accepted.
def inTurn : List (Except (Fault α) Bool) → Except (Failure α) Unit
  | [] => .ok ()
  | .ok true :: later => inTurn later
  | .ok false :: _ => .error (.error .evaluationFailed)
  | .error fault :: _ => .error (.fault fault)

-- A run that goes as far as these calls let it, and ends as they do.
def Makes (run : Except (Failure α) τ) (calls : List (Except (Fault α) Bool)) : Prop := (fun _ => ()) <$> run = inTurn calls

section Turns

variable (first later : List (Except (Fault α) Bool))

theorem in_turn_append : inTurn (first ++ later) = inTurn first >>= fun _ => inTurn later := by
  induction first with
  | nil => rfl
  | cons call rest ih =>
      match call with
      | .ok true => exact ih
      | .ok false => rfl
      | .error fault => rfl

theorem in_turn_accepted (all : ∀ call ∈ first, call = .ok true) : inTurn first = .ok () := by
  induction first with
  | nil => rfl
  | cons call rest ih =>
      cases all call List.mem_cons_self
      exact ih fun other member => all other (List.mem_cons_of_mem _ member)

theorem in_turn_refused (all : ∀ call ∈ first, call = .ok true) :
    inTurn (first ++ .ok false :: later) = .error (.error .evaluationFailed) := by
  rw [in_turn_append, in_turn_accepted first all]
  rfl

end Turns

section Runs

variable (run : Except (Failure α) τ) (calls : List (Except (Fault α) Bool)) (makes : Makes run calls)

include makes

theorem makes_answer (all : ∀ call ∈ calls, call = .ok true) : ∃ result, run = .ok result := by
  rw [Makes, in_turn_accepted calls all, map_ok] at makes
  obtain ⟨result, done, _⟩ := makes
  exact ⟨result, done⟩

theorem makes_refused (earlier later : List (Except (Fault α) Bool)) (split : calls = earlier ++ .ok false :: later)
    (all : ∀ call ∈ earlier, call = .ok true) : run = .error (.error .evaluationFailed) := by
  rw [Makes, split, in_turn_refused earlier later all] at makes
  cases run with
  | ok result => cases makes
  | error cause => exact congrArg Except.error (Except.error.inj makes)

end Runs

theorem makes_value (result : τ) : Makes (.ok result : Except (Failure α) τ) [] := rfl

theorem makes_map (f : τ → ρ) (run : Except (Failure α) τ) (calls : List (Except (Fault α) Bool))
    (makes : Makes run calls) : Makes (f <$> run) calls := by
  rw [Makes, ← makes]
  cases run with
  | ok result => rfl
  | error cause => rfl

theorem makes_accepted (call : Except (Fault α) (Bool × τ)) : Makes (accepted call) [accepts call] := by
  match call with
  | .ok (true, result) => rfl
  | .ok (false, _) => rfl
  | .error fault => rfl

theorem makes_bind (run : Except (Failure α) τ) (next : τ → Except (Failure α) ρ) (first later : List (Except (Fault α) Bool))
    (makes : Makes run first) (continued : ∀ result, run = .ok result → Makes (next result) later) :
    Makes (run >>= next) (first ++ later) := by
  rw [Makes, in_turn_append, ← makes]
  cases run with
  | ok result => exact continued result rfl
  | error cause => rfl

-- Where a call is made on what an earlier one wrote, it is a call only if that one was accepted.
theorem makes_chain (call : Except (Fault α) (Bool × τ)) (next : τ → Except (Fault α) (Bool × ρ)) :
    Makes (accepted call >>= fun result => accepted (next result))
      [accepts call, call >>= fun written => accepts (next written.2)] := by
  match call with
  | .ok (true, result) => exact makes_accepted (next result)
  | .ok (false, _) => rfl
  | .error fault => rfl

theorem makes_map_m (f : ι → Except (Failure α) τ) (items : List ι) (calls : ι → List (Except (Fault α) Bool))
    (makes : ∀ item ∈ items, Makes (f item) (calls item)) : Makes (items.mapM f) (items.flatMap calls) := by
  induction items with
  | nil => exact makes_value []
  | cons item rest ih =>
      rw [List.mapM_cons, List.flatMap_cons]
      refine makes_bind _ _ _ _ (makes item List.mem_cons_self) fun result _ => ?_
      have others := makes_bind _ (fun results => pure (result :: results)) _ []
        (ih fun other member => makes other (List.mem_cons_of_mem item member)) fun results _ => makes_value (result :: results)
      rwa [List.append_nil] at others

end LandmarkMap
