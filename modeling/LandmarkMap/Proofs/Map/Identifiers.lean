import LandmarkMap.Proofs.Map.GraphConsistency

set_option autoImplicit false

namespace LandmarkMap

variable {kind : ElementKind}

-- Numbers that an identifier can have and that name something.
def Nameable (i : Nat) : Prop := i < UInt64.size - 1

theorem zero_nameable : Nameable 0 := by
  rw [Nameable, UInt64.size]
  omega

theorem numbered_apart (i j : Nat) (first : Nameable i) (second : Nameable j)
    (same : (Id.ofNat i : Id kind) = Id.ofNat j) : i = j := by
  have words := congrArg UInt64.toNat (congrArg Id.value same)
  rw [Nameable] at first second
  change (UInt64.ofNat i).toNat = (UInt64.ofNat j).toNat at words
  rwa [UInt64.toNat_ofNat_of_lt' (by omega), UInt64.toNat_ofNat_of_lt' (by omega)] at words

theorem numbered_valid (i : Nat) (named : Nameable i) : (Id.ofNat i : Id kind).isValid = true := by
  rw [id_valid]
  intro same
  have words := congrArg UInt64.toNat (congrArg Id.value same)
  rw [Nameable] at named
  change (UInt64.ofNat i).toNat = UInt64.size - 1 at words
  rw [UInt64.toNat_ofNat_of_lt' (by omega)] at words
  omega

theorem numbered_member (i : Nat) (is : List Nat) (named : Nameable i) (all : ∀ j ∈ is, Nameable j) :
    (Id.ofNat i : Id kind) ∈ is.map Id.ofNat ↔ i ∈ is := by
  rw [List.mem_map]
  constructor
  · rintro ⟨j, member, same⟩
    rwa [← numbered_apart j i (all j member) named same]
  · intro member
    exact ⟨i, member, rfl⟩

theorem precedes_iff (a b : Id kind) : a.precedes b = true ↔ a.value ≤ b.value := by
  rw [Id.precedes, decide_eq_true_eq]

theorem numbered_sorted (n : Nat) (named : ∀ i < n, Nameable i) :
    ((List.range n).map Id.ofNat : List (Id kind)).Pairwise fun a b => a.precedes b = true := by
  rw [List.pairwise_map]
  refine (List.pairwise_lt_range (n := n)).imp_of_mem ?_
  intro i j first second less
  have low := named i (List.mem_range.mp first)
  have high := named j (List.mem_range.mp second)
  rw [Nameable] at low high
  rw [precedes_iff, UInt64.le_iff_toNat_le]
  change (UInt64.ofNat i).toNat ≤ (UInt64.ofNat j).toNat
  rw [UInt64.toNat_ofNat_of_lt' (by omega), UInt64.toNat_ofNat_of_lt' (by omega)]
  omega

theorem numbered_nodup (n : Nat) (named : ∀ i < n, Nameable i) : ((List.range n).map Id.ofNat : List (Id kind)).Nodup := by
  refine List.nodup_range.map_on ?_
  intro i first j second same
  exact numbered_apart i j (named i (List.mem_range.mp first)) (named j (List.mem_range.mp second)) same

theorem sort_pairwise (ids : List (Id kind)) : (Id.sort ids).Pairwise fun a b => a.precedes b = true := by
  refine List.pairwise_mergeSort ?_ ?_ ids
  · intro a b c first second
    rw [precedes_iff] at first second ⊢
    exact UInt64.le_trans first second
  · intro a b
    rw [Bool.or_eq_true, precedes_iff, precedes_iff]
    exact UInt64.le_total a.value b.value

theorem precedes_antisymm (a b : Id kind) (first : a.precedes b = true) (second : b.precedes a = true) : a = b := by
  rw [precedes_iff] at first second
  cases a
  cases b
  exact congrArg Id.mk (UInt64.le_antisymm first second)

theorem sort_ascending (ids : List (Id kind)) (distinct : ids.Nodup) :
    (Id.sort ids).Pairwise fun a b => a.value < b.value := by
  have apart : (Id.sort ids).Nodup := (List.mergeSort_perm ids Id.precedes).nodup_iff.mpr distinct
  refine ((sort_pairwise ids).and apart).imp fun {a b} pair => ?_
  refine UInt64.lt_of_le_of_ne ((precedes_iff a b).mp pair.1) fun same => pair.2 ?_
  cases a
  exact congrArg Id.mk same

-- Identifiers that are numbered without a gap are listed by number.
theorem sorted_numbers (ids : List (Id kind)) (n : Nat) (named : ∀ i < n, Nameable i) (distinct : ids.Nodup)
    (members : ∀ id, id ∈ ids ↔ id ∈ (List.range n).map Id.ofNat) : Id.sort ids = (List.range n).map Id.ofNat := by
  have same : ids.Perm ((List.range n).map Id.ofNat) :=
    (List.perm_ext_iff_of_nodup distinct (numbered_nodup n named)).mpr members
  exact List.Perm.eq_of_pairwise (fun a b _ _ => precedes_antisymm a b) (sort_pairwise ids) (numbered_sorted n named)
    ((List.mergeSort_perm ids Id.precedes).trans same)

theorem mem_keys {κ ν : Type} [DecidableEq κ] (t : Table κ ν) (key : κ) : key ∈ t.keys ↔ t.contains key = true := by
  have found : ∀ entries : List (κ × ν), key ∈ entries.map Prod.fst ↔ (Table.lookup key entries).isSome = true := by
    intro entries
    induction entries with
    | nil =>
        constructor
        · intro member
          cases member
        · intro there
          cases there
    | cons e rest ih =>
        rw [List.map_cons, List.mem_cons, ih, Table.lookup]
        by_cases same : e.1 = key
        · rw [if_pos same]
          exact iff_of_true (.inl same.symm) rfl
        · rw [if_neg same]
          exact or_iff_right (Ne.symm same)
  exact found t.entries

end LandmarkMap
