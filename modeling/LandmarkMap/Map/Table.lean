set_option autoImplicit false

/-!
Finite maps as lists of entries, the newest first, in which no key occurs twice. One equation per
write says what a look-up finds afterwards.
-/

namespace LandmarkMap

structure Table (κ ν : Type) where
  entries : List (κ × ν)
  distinct : (entries.map Prod.fst).Nodup

namespace Table

variable {κ ν : Type}

def empty : Table κ ν := ⟨[], List.nodup_nil⟩

instance : Inhabited (Table κ ν) := ⟨empty⟩

def keys (t : Table κ ν) : List κ := t.entries.map Prod.fst

def size (t : Table κ ν) : Nat := t.entries.length

def mapValues (t : Table κ ν) (f : κ → ν → ν) : Table κ ν :=
  ⟨t.entries.map fun (k, v) => (k, f k v), by
    have same : (t.entries.map fun (k, v) => (k, f k v)).map Prod.fst = t.entries.map Prod.fst := by
      simp [List.map_map, Function.comp_def]
    rw [same]
    exact t.distinct⟩

variable [DecidableEq κ]

def lookup (key : κ) : List (κ × ν) → Option ν
  | [] => none
  | (k, v) :: rest => if k = key then some v else lookup key rest

def get? (t : Table κ ν) (key : κ) : Option ν := lookup key t.entries

def contains (t : Table κ ν) (key : κ) : Bool := (t.get? key).isSome

def insert (t : Table κ ν) (key : κ) (value : ν) : Table κ ν :=
  ⟨(key, value) :: t.entries.filter fun e => e.1 ≠ key, by
    rw [List.map_cons, List.nodup_cons]
    constructor
    · simp
    · exact List.Nodup.sublist (List.Sublist.map _ List.filter_sublist) t.distinct⟩

def modify (t : Table κ ν) (key : κ) (f : ν → ν) : Table κ ν :=
  t.mapValues fun k v => if k = key then f v else v

theorem lookup_filter (key other : κ) (different : other ≠ key) (entries : List (κ × ν)) :
    lookup other (entries.filter fun e => e.1 ≠ key) = lookup other entries := by
  induction entries with
  | nil => rfl
  | cons e rest ih =>
      by_cases same : e.1 = key
      · have miss : e.1 ≠ other := fun h => different (h.symm.trans same)
        simpa [List.filter_cons, same, lookup, Ne.symm different] using ih
      · simp only [List.filter_cons, ne_eq, same, not_false_eq_true, decide_true, if_true, lookup]
        simp only [ne_eq] at ih
        rw [ih]

@[simp] theorem get_insert_self (t : Table κ ν) (key : κ) (value : ν) :
    (t.insert key value).get? key = some value := by
  simp [get?, insert, lookup]

theorem get_insert_other (t : Table κ ν) {key other : κ} (different : other ≠ key) (value : ν) :
    (t.insert key value).get? other = t.get? other := by
  simp only [get?, insert, lookup, if_neg (Ne.symm different)]
  exact lookup_filter key other different t.entries

theorem lookup_map_values (f : κ → ν → ν) (key : κ) (entries : List (κ × ν)) :
    lookup key (entries.map fun (k, v) => (k, f k v)) = (lookup key entries).map (f key) := by
  induction entries with
  | nil => rfl
  | cons e rest ih =>
      by_cases same : e.1 = key
      · simp [lookup, same]
      · simp [lookup, same, ih]

theorem get_map_values (t : Table κ ν) (f : κ → ν → ν) (key : κ) :
    (t.mapValues f).get? key = (t.get? key).map (f key) :=
  lookup_map_values f key t.entries

@[simp] theorem get_modify_self (t : Table κ ν) (key : κ) (f : ν → ν) :
    (t.modify key f).get? key = (t.get? key).map f := by
  rw [modify, get_map_values]
  simp

theorem get_modify_other (t : Table κ ν) {key other : κ} (different : other ≠ key) (f : ν → ν) :
    (t.modify key f).get? other = t.get? other := by
  rw [modify, get_map_values]
  simp [different]

theorem get_insert (t : Table κ ν) (key other : κ) (value : ν) :
    (t.insert key value).get? other = if other = key then some value else t.get? other := by
  by_cases same : other = key
  · rw [if_pos same, same, get_insert_self]
  · rw [if_neg same, get_insert_other t same]

theorem get_modify (t : Table κ ν) (key other : κ) (f : ν → ν) :
    (t.modify key f).get? other = if other = key then (t.get? other).map f else t.get? other := by
  by_cases same : other = key
  · rw [if_pos same, same, get_modify_self]
  · rw [if_neg same, get_modify_other t same]

theorem contains_get (t : Table κ ν) (key : κ) :
    t.contains key = true ↔ ∃ value, t.get? key = some value :=
  Option.isSome_iff_exists

theorem contains_none (t : Table κ ν) (key : κ) : t.contains key = false ↔ t.get? key = none := by
  rw [contains, Option.isSome_eq_false_iff, Option.isNone_iff_eq_none]

theorem contains_insert (t : Table κ ν) (key other : κ) (value : ν) :
    (t.insert key value).contains other = (decide (other = key) || t.contains other) := by
  by_cases same : other = key
  · simp [contains, same]
  · simp [contains, get_insert, same]

theorem contains_modify (t : Table κ ν) (key other : κ) (f : ν → ν) :
    (t.modify key f).contains other = t.contains other := by
  by_cases same : other = key
  · simp [contains, same]
  · simp [contains, get_modify, same]

theorem lookup_absent (key : κ) (entries : List (κ × ν)) (absent : lookup key entries = none) :
    (entries.filter fun e => e.1 ≠ key) = entries := by
  induction entries with
  | nil => rfl
  | cons e rest ih =>
      by_cases same : e.1 = key
      · simp [lookup, same] at absent
      · rw [lookup, if_neg same] at absent
        rw [List.filter_cons, if_pos (by simpa using same), ih absent]

theorem size_insert (t : Table κ ν) (key : κ) (value : ν) (absent : t.get? key = none) :
    (t.insert key value).size = t.size + 1 := by
  change ((key, value) :: t.entries.filter fun e => e.1 ≠ key).length = _
  rw [lookup_absent key t.entries absent]
  rfl

end Table

end LandmarkMap
