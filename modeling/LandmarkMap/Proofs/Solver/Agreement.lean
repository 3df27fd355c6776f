import LandmarkMap.Proofs.Geometry.Opposites
import LandmarkMap.Proofs.Solver.Slots

set_option autoImplicit false

namespace LandmarkMap

section Outcomes

variable {ε τ ρ : Type}

-- Two outcomes that fail alike or have related values.
inductive Agree (related : τ → τ → Prop) : Except ε τ → Except ε τ → Prop
  | ok {a b : τ} (values : related a b) : Agree related (.ok a) (.ok b)
  | error (cause : ε) : Agree related (.error cause) (.error cause)

theorem agree_refl {related : τ → τ → Prop} (each : ∀ a, related a a) (outcome : Except ε τ) :
    Agree related outcome outcome := by
  cases outcome with
  | ok value => exact .ok (each value)
  | error cause => exact .error cause

theorem agree_bind {related : τ → τ → Prop} {after : ρ → ρ → Prop} {first second : Except ε τ} {f g : τ → Except ε ρ}
    (now : Agree related first second) (later : ∀ a b, related a b → Agree after (f a) (g b)) :
    Agree after (first >>= f) (second >>= g) := by
  cases now with
  | ok values => exact later _ _ values
  | error cause => exact .error cause

variable {related : τ → τ → Prop}

theorem option_refl (each : ∀ a, related a a) (item : Option τ) : Option.Rel related item item := by
  cases item with
  | none => exact .none
  | some a => exact .some (each a)

theorem related_place {first second : List τ} (each : List.Forall₂ related first second) (i : Nat) :
    Option.Rel related first[i]? second[i]? := by
  induction each generalizing i with
  | nil => exact .none
  | cons head _ ih =>
      cases i with
      | zero => exact .some head
      | succ i => exact ih i

theorem related_set {first second : List τ} (each : List.Forall₂ related first second) (i : Nat) {a b : τ}
    (values : related a b) : List.Forall₂ related (first.set i a) (second.set i b) := by
  induction each generalizing i with
  | nil => exact .nil
  | cons head rest ih =>
      cases i with
      | zero => exact .cons values rest
      | succ i => exact .cons head (ih i)

end Outcomes

variable {α : Type} [Scalar α]

abbrev SameList : List α → List α → Prop := List.Forall₂ Same

abbrev SameSlots : List (Option (List α)) → List (Option (List α)) → Prop := List.Forall₂ (Option.Rel SameList)

structure SameBuffers (a b : Buffers α) : Prop where
  residuals : SameList a.residuals b.residuals
  jacobians : Option.Rel SameSlots a.jacobians b.jacobians

-- The same verdict, and buffers that no comparison tells apart.
def SameAnswer (a b : Bool × Buffers α) : Prop := a.1 = b.1 ∧ SameBuffers a.2 b.2

theorem same_list_refl (values : List α) : SameList values values := List.forall₂_same.mpr fun a _ => same_refl a

theorem same_slots_refl (slots : List (Option (List α))) : SameSlots slots slots :=
  List.forall₂_same.mpr fun slot _ => option_refl same_list_refl slot

theorem same_answer_refl (answer : Bool × Buffers α) : SameAnswer answer answer :=
  ⟨rfl, same_list_refl _, option_refl same_slots_refl _⟩

inductive SameJacobian {rows : Nat} : BlockJacobian rows α → BlockJacobian rows α → Prop
  | of (block : Nat) {size : Nat} {a b : Mat rows size α} (entries : SameMat a b) :
      SameJacobian ⟨block, size, a⟩ ⟨block, size, b⟩

theorem same_jacobian_refl {rows : Nat} (j : BlockJacobian rows α) : SameJacobian j j := .of j.block (same_mat_refl j.matrix)

theorem same_jacobians_refl {rows : Nat} (jacobians : List (BlockJacobian rows α)) :
    List.Forall₂ SameJacobian jacobians jacobians :=
  List.forall₂_same.mpr fun j _ => same_jacobian_refl j

section Answers

variable {rows m n : Nat}

theorem same_fill {slots others : List (Option (List α))} (same : SameSlots slots others) (block : Nat) {a b : Mat m n α}
    (entries : SameMat a b) : Agree SameSlots (fillSlot slots block a) (fillSlot others block b) := by
  have here := related_place same block
  rw [fillSlot, fillSlot, fetch, fetch]
  generalize slots[block]? = slot at here ⊢
  generalize others[block]? = other at here ⊢
  cases here with
  | none => exact .error _
  | some held =>
      cases held with
      | none => exact .ok same
      | @some buffer kept buffers =>
          simp only [ok_bind, Mat.writeRowMajor, buffers.length_eq]
          by_cases fits : kept.length = m * n
          · rw [if_pos fits, if_pos fits]
            exact .ok (related_set same block (.some (same_entries entries)))
          · rw [if_neg fits, if_neg fits]
            exact .error _

theorem same_fill_all {jacobians others : List (BlockJacobian rows α)} (each : List.Forall₂ SameJacobian jacobians others)
    {slots kept : List (Option (List α))} (same : SameSlots slots kept) :
    Agree SameSlots (fillAll slots jacobians) (fillAll kept others) := by
  induction each generalizing slots kept with
  | nil => exact .ok same
  | cons first _ ih =>
      obtain ⟨block, entries⟩ := first
      rw [fillAll, fillAll, List.foldlM_cons, List.foldlM_cons]
      exact agree_bind (same_fill same block entries) fun _ _ filled => ih filled

theorem same_answers {residuals kept : List α} (values : SameList residuals kept)
    {jacobians others : List (BlockJacobian rows α)} (each : List.Forall₂ SameJacobian jacobians others)
    (buffers : Buffers α) : Agree SameAnswer (answerWith residuals jacobians buffers) (answerWith kept others buffers) := by
  have written : Agree SameList (Block.writeFront residuals buffers.residuals : Except (Fault α) _)
      (Block.writeFront kept buffers.residuals) := by
    rw [Block.writeFront, Block.writeFront, values.length_eq]
    by_cases room : kept.length ≤ buffers.residuals.length
    · rw [if_pos room, if_pos room]
      exact .ok (List.rel_append values (same_list_refl _))
    · rw [if_neg room, if_neg room]
      exact .error _
  rw [answerWith, answerWith]
  refine agree_bind written fun first second front => ?_
  cases buffers.jacobians with
  | none => exact .ok ⟨rfl, front, .none⟩
  | some slots =>
      exact agree_bind (same_fill_all each (same_slots_refl slots)) fun _ _ filled => .ok ⟨rfl, front, .some filled⟩

end Answers

end LandmarkMap
