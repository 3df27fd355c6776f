import Mathlib.Data.List.Forall2
import Mathlib.Data.List.Induction
import LandmarkMap.Failure

set_option autoImplicit false

namespace LandmarkMap

variable {α ε τ ρ : Type}

def Faults (outcome : Except ε ρ) : Prop := ∃ cause, outcome = .error cause

theorem ok_never_faults (value : ρ) : ¬ Faults (.ok value : Except ε ρ) := by
  rintro ⟨cause, same⟩
  cases same

theorem error_faults (cause : ε) : Faults (.error cause : Except ε ρ) := ⟨cause, rfl⟩

theorem faultless_has_value (outcome : Except ε ρ) (safe : ¬ Faults outcome) :
    ∃ value, outcome = .ok value := by
  cases outcome with
  | ok value => exact ⟨value, rfl⟩
  | error cause => exact absurd (error_faults cause) safe

theorem ok_bind (value : τ) (next : τ → Except ε ρ) :
    (Except.ok value : Except ε τ) >>= next = next value := rfl

theorem bind_ok (first : Except ε τ) (next : τ → Except ε ρ) (result : ρ) :
    first >>= next = .ok result ↔ ∃ value, first = .ok value ∧ next value = .ok result := by
  cases first with
  | ok value =>
      constructor
      · intro done
        exact ⟨value, rfl, done⟩
      · rintro ⟨_, same, done⟩
        cases same
        exact done
  | error cause =>
      constructor
      · intro done
        cases done
      · rintro ⟨_, same, _⟩
        cases same

theorem bind_faults (first : Except ε τ) (next : τ → Except ε ρ) :
    Faults (first >>= next) ↔ Faults first ∨ ∃ value, first = .ok value ∧ Faults (next value) := by
  cases first with
  | ok value =>
      constructor
      · intro later
        exact .inr ⟨value, rfl, later⟩
      · rintro (now | ⟨_, same, later⟩)
        · exact absurd now (ok_never_faults value)
        · cases same
          exact later
  | error cause =>
      constructor
      · intro _
        exact .inl (error_faults cause)
      · intro _
        exact error_faults cause

theorem pure_ok (value result : ρ) : (pure value : Except ε ρ) = .ok result ↔ value = result := by
  constructor
  · intro same
    cases same
    rfl
  · rintro rfl
    rfl

theorem map_ok (f : τ → ρ) (first : Except ε τ) (result : ρ) :
    f <$> first = .ok result ↔ ∃ value, first = .ok value ∧ f value = result := by
  rw [map_eq_pure_bind, bind_ok]
  simp only [pure_ok]

theorem map_ok_value (f : τ → ρ) (value : τ) : f <$> (.ok value : Except ε τ) = .ok (f value) := rfl

-- What is seen of an outcome tells that there is one.
theorem observed_ok (f : τ → ρ) (outcome : Except ε τ) (value : ρ)
    (observed : outcome.toOption.map f = some value) : ∃ result, outcome = .ok result ∧ f result = value := by
  cases outcome with
  | ok result => exact ⟨result, rfl, Option.some.inj observed⟩
  | error cause => cases observed

theorem value_or (outcome : Except ε τ) (other : τ) (there : outcome.toOption.isSome = true) :
    outcome = .ok (outcome.toOption.getD other) := by
  cases outcome with
  | error cause => cases there
  | ok value => rfl

theorem map_error_ok {δ : Type} (f : ε → δ) (outcome : Except ε τ) (value : τ) :
    outcome.mapError f = .ok value ↔ outcome = .ok value := by
  cases outcome with
  | error cause => simp [Except.mapError]
  | ok other => simp [Except.mapError]

theorem map_error_bind {δ : Type} (f : ε → δ) (first : Except ε τ) (next : τ → Except ε ρ) :
    (first >>= next).mapError f = first.mapError f >>= fun value => (next value).mapError f := by
  cases first with
  | error cause => rfl
  | ok value => rfl

theorem map_faults (f : τ → ρ) (first : Except ε τ) : Faults (f <$> first) ↔ Faults first := by
  cases first with
  | ok value => exact ⟨fun h => absurd h (ok_never_faults _), fun h => absurd h (ok_never_faults _)⟩
  | error cause => exact ⟨fun _ => error_faults cause, fun _ => error_faults cause⟩

theorem require_ok (condition : Prop) [Decidable condition] (fault : Fault α) (result : Unit) :
    require condition fault = .ok result ↔ condition := by
  by_cases holds : condition
  · simp [require, holds]
  · simp [require, holds]

theorem require_bind (condition : Prop) [Decidable condition] (fault : Fault α)
    (next : Unit → Except (Fault α) ρ) (holds : condition) :
    require condition fault >>= next = next () := by
  rw [require, if_pos holds, ok_bind]

theorem require_bind_ok (condition : Prop) [Decidable condition] (fault : Fault α)
    (next : Unit → Except (Fault α) ρ) (result : ρ) :
    require condition fault >>= next = .ok result ↔ condition ∧ next () = .ok result := by
  rw [bind_ok]
  constructor
  · rintro ⟨_, allowed, done⟩
    exact ⟨(require_ok _ _ _).mp allowed, done⟩
  · rintro ⟨holds, done⟩
    exact ⟨(), (require_ok _ _ _).mpr holds, done⟩

theorem require_faults (condition : Prop) [Decidable condition] (fault : Fault α) :
    Faults (require condition fault) ↔ ¬ condition := by
  by_cases holds : condition
  · simp [Faults, require, holds]
  · simp [Faults, require, holds]

theorem require_missed (condition : Prop) [Decidable condition] (fault : Fault α)
    (next : Unit → Except (Fault α) ρ) (fails : ¬ condition) : require condition fault >>= next = .error fault := by
  rw [require, if_neg fails]
  rfl

theorem require_error (condition : Prop) [Decidable condition] (given fault : Fault α) :
    require condition given = .error fault ↔ ¬ condition ∧ given = fault := by
  by_cases holds : condition
  · simp [require, holds]
  · simp [require, holds]

theorem fetch_ok (items : List τ) (i : Nat) (item : τ) :
    (fetch items i : Except (Fault α) τ) = .ok item ↔ items[i]? = some item := by
  cases found : items[i]? with
  | none => simp [fetch, found]
  | some other => simp [fetch, found]

-- A traversal answers item by item, so its length and its order are those of the list it walks.
theorem map_m_ok (f : τ → Except ε ρ) (items : List τ) (results : List ρ) :
    items.mapM f = .ok results ↔ List.Forall₂ (fun item result => f item = .ok result) items results := by
  induction items generalizing results with
  | nil => rw [List.mapM_nil, pure_ok, List.forall₂_nil_left_iff, eq_comm]
  | cons item rest ih =>
      simp only [List.mapM_cons, bind_ok, pure_ok, List.forall₂_cons_left_iff, ih]
      constructor
      · rintro ⟨first, done, others, remaining, rfl⟩
        exact ⟨first, others, done, remaining, rfl⟩
      · rintro ⟨first, others, done, remaining, rfl⟩
        exact ⟨first, done, others, remaining, rfl⟩

theorem map_m_result (f : τ → Except ε ρ) (items : List τ) (results : List ρ)
    (done : items.mapM f = .ok results) (i : Nat) (result : ρ) (there : results[i]? = some result) :
    ∃ item, items[i]? = some item ∧ f item = .ok result := by
  have matched := (map_m_ok f items results).mp done
  obtain ⟨inside, rfl⟩ := List.getElem?_eq_some_iff.mp there
  have within : i < items.length := matched.length_eq ▸ inside
  exact ⟨items[i], List.getElem?_eq_getElem within, matched.get within inside⟩

theorem map_m_map {σ : Type} (f : τ → Except ε ρ) (change : ρ → σ) (items : List τ) :
    items.mapM (fun item => change <$> f item) = List.map change <$> items.mapM f := by
  induction items with
  | nil => rfl
  | cons item rest ih =>
      rw [List.mapM_cons, List.mapM_cons, ih]
      cases f item with
      | error cause => rfl
      | ok first =>
          cases rest.mapM f with
          | error cause => rfl
          | ok others => rfl

theorem map_m_congr (f g : τ → Except ε ρ) (items : List τ) (same : ∀ item ∈ items, f item = g item) :
    items.mapM f = items.mapM g := by
  induction items with
  | nil => rfl
  | cons item rest ih =>
      rw [List.mapM_cons, List.mapM_cons, same item List.mem_cons_self,
        ih fun other member => same other (List.mem_cons_of_mem item member)]

theorem map_m_faults (f : τ → Except ε ρ) (items : List τ) :
    Faults (items.mapM f) ↔ ∃ item ∈ items, Faults (f item) := by
  induction items with
  | nil =>
      constructor
      · intro impossible
        exact absurd impossible (ok_never_faults _)
      · rintro ⟨_, member, _⟩
        cases member
  | cons item rest ih =>
      rw [List.mapM_cons, bind_faults]
      constructor
      · rintro (now | ⟨_, _, later⟩)
        · exact ⟨item, List.mem_cons_self, now⟩
        · rcases (bind_faults _ _).mp later with tail | ⟨_, _, done⟩
          · obtain ⟨other, member, broken⟩ := ih.mp tail
            exact ⟨other, List.mem_cons_of_mem item member, broken⟩
          · exact absurd done (ok_never_faults _)
      · rintro ⟨other, member, broken⟩
        rcases List.mem_cons.mp member with rfl | later
        · exact .inl broken
        · cases head : f item with
          | error cause => exact .inl (error_faults cause)
          | ok value => exact .inr ⟨value, rfl, (bind_faults _ _).mpr (.inl (ih.mpr ⟨other, later, broken⟩))⟩

theorem filter_map_m_chosen (f : τ → Except ε (Option τ)) (chosen : τ → Bool) (items : List τ)
    (each : ∀ item ∈ items, f item = .ok (if chosen item then some item else none)) :
    items.filterMapM f = .ok (items.filter chosen) := by
  induction items with
  | nil => rfl
  | cons item rest ih =>
      have others := ih fun other member => each other (List.mem_cons_of_mem item member)
      rw [List.filterMapM_cons, each item List.mem_cons_self, ok_bind, others, List.filter_cons]
      cases chosen item with
      | false => rfl
      | true => rfl

-- The induction behind every run: the history grows at its end, as the run does.
theorem fold_keeps {σ ι : Type} (step : σ → ι → Except ε σ) (inv : List ι → σ → Prop) (start : σ)
    (initial : inv [] start)
    (kept : ∀ history item before after, inv history before → step before item = .ok after →
      inv (history ++ [item]) after)
    (items : List ι) (final : σ) (done : items.foldlM step start = .ok final) : inv items final := by
  induction items using List.reverseRecOn generalizing final with
  | nil =>
      cases done
      exact initial
  | append_singleton history item ih =>
      rw [List.foldlM_append, bind_ok] at done
      obtain ⟨before, reached, done⟩ := done
      rw [List.foldlM_cons, bind_ok] at done
      obtain ⟨after, stepped, done⟩ := done
      cases done
      exact kept history item before final (ih before reached) stepped

theorem fold_reaches {σ ι : Type} (step : σ → ι → Except ε σ) (inv : σ → Prop) (items : List ι)
    (advance : ∀ before, inv before → ∀ item ∈ items, ∃ after, step before item = .ok after ∧ inv after)
    (start : σ) (initial : inv start) : ∃ final, items.foldlM step start = .ok final ∧ inv final := by
  induction items generalizing start with
  | nil => exact ⟨start, rfl, initial⟩
  | cons item rest ih =>
      obtain ⟨next, stepped, kept⟩ := advance start initial item List.mem_cons_self
      obtain ⟨final, done, reached⟩ :=
        ih (fun before holds later member => advance before holds later (List.mem_cons_of_mem item member))
          next kept
      exact ⟨final, by rw [List.foldlM_cons, stepped, ok_bind, done], reached⟩

-- A run that knows how far it has come.
theorem fold_follows {σ ι : Type} (step : σ → ι → Except ε σ) (inv : List ι → σ → Prop) (items : List ι)
    (advance : ∀ history item before, history ++ [item] <+: items → inv history before →
      ∃ after, step before item = .ok after ∧ inv (history ++ [item]) after)
    (start : σ) (initial : inv [] start) : ∃ final, items.foldlM step start = .ok final ∧ inv items final := by
  induction items using List.reverseRecOn with
  | nil => exact ⟨start, rfl, initial⟩
  | append_singleton history item ih =>
      obtain ⟨before, reached, sofar⟩ := ih fun earlier next state upTo =>
        advance earlier next state (upTo.trans (List.prefix_append history [item]))
      obtain ⟨after, stepped, kept⟩ := advance history item before List.prefix_rfl sofar
      refine ⟨after, ?_, kept⟩
      rw [List.foldlM_append, reached, ok_bind, List.foldlM_cons, stepped]
      rfl

end LandmarkMap
