import Mathlib.Data.Int.CardIntervalMod
import LandmarkMap.Proofs.Geometry.Poses
import LandmarkMap.Proofs.Outcome
import LandmarkMap.Scene.Corruption

set_option autoImplicit false

namespace LandmarkMap

-- Whether the landmark at position `k` of a list that starts at position `i` is disturbed.
def Landmark.Due {α : Type} (stride i : Nat) (landmarks : List (Landmark α)) (k : Nat) : Prop :=
  stride ∣ i + k ∧ (landmarks[k]?).any (·.isTriangulated) = true

instance {α : Type} (stride i : Nat) (landmarks : List (Landmark α)) :
    DecidablePred (Landmark.Due stride i landmarks) := fun _ => inferInstanceAs (Decidable (_ ∧ _))

section Due

variable {α : Type} (stride i : Nat) (l : Landmark α) (rest : List (Landmark α))

theorem due_first : Landmark.Due stride i (l :: rest) 0 ↔ stride ∣ i ∧ l.isTriangulated = true := by
  rw [Landmark.Due, Nat.add_zero]
  rfl

theorem due_next (k : Nat) : Landmark.Due stride i (l :: rest) (k + 1) ↔ Landmark.Due stride (i + 1) rest k := by
  rw [Landmark.Due, Landmark.Due, List.getElem?_cons_succ, Nat.add_right_comm, Nat.add_assoc]

theorem count_next (k : Nat) :
    Nat.count (Landmark.Due stride i (l :: rest)) (k + 1) =
      Nat.count (Landmark.Due stride (i + 1) rest) k + if Landmark.Due stride i (l :: rest) 0 then 1 else 0 := by
  rw [Nat.count_succ']
  simp only [due_next]

end Due

variable {α : Type} [Scalar α] (source : RandomSource α) (stdDev : α) (stride : Nat)

-- A landmark that is disturbed by the three draws from a position on.
def Landmark.disturbed (draws : Nat) (l : Landmark α) : Landmark α :=
  { l with
    position := l.position.map (· + positionNoise source stdDev draws)
    quality := .unknown }

-- What becomes of one landmark: those before it that are disturbed have used up three draws each.
def Landmark.struck (i draws : Nat) (landmarks : List (Landmark α)) (k : Nat) (l : Landmark α) : Landmark α :=
  if Landmark.Due stride i landmarks k then
    l.disturbed source stdDev (draws + 3 * Nat.count (Landmark.Due stride i landmarks) k)
  else l

section Step

variable (i draws : Nat) (l : Landmark α) (rest : List (Landmark α))

theorem corrupt_due (due : Landmark.Due stride i (l :: rest) 0) :
    corruptFrom source stdDev stride i draws (l :: rest) =
      let later := corruptFrom source stdDev stride (i + 1) (draws + 3) rest
      (l.disturbed source stdDev draws :: later.1, later.2 + 1) := by
  obtain ⟨divides, triangulated⟩ := (due_first stride i l rest).mp due
  obtain ⟨p, placed⟩ := Option.isSome_iff_exists.mp triangulated
  rw [corruptFrom, placed]
  simp only [if_pos (Nat.mod_eq_zero_of_dvd divides)]
  rw [Landmark.disturbed, placed]
  rfl

theorem corrupt_kept (kept : ¬ Landmark.Due stride i (l :: rest) 0) :
    corruptFrom source stdDev stride i draws (l :: rest) =
      let later := corruptFrom source stdDev stride (i + 1) draws rest
      (l :: later.1, later.2) := by
  rw [due_first] at kept
  rw [corruptFrom]
  cases placed : l.position with
  | none => rfl
  | some p =>
      have skipped : ¬ i % stride = 0 := fun multiple =>
        kept ⟨Nat.dvd_of_mod_eq_zero multiple, by rw [Landmark.isTriangulated, placed]; rfl⟩
      simp only [if_neg skipped]

theorem struck_first : l.struck source stdDev stride i draws (l :: rest) 0 =
    if Landmark.Due stride i (l :: rest) 0 then l.disturbed source stdDev draws else l := by
  rw [Landmark.struck, Nat.count_zero]
  rfl

theorem struck_next (k : Nat) :
    Landmark.struck source stdDev stride i draws (l :: rest) (k + 1) =
      Landmark.struck source stdDev stride (i + 1) (if Landmark.Due stride i (l :: rest) 0 then draws + 3 else draws)
        rest k := by
  funext other
  rw [Landmark.struck, Landmark.struck, count_next]
  simp only [due_next]
  by_cases due : Landmark.Due stride i (l :: rest) 0
  · rw [if_pos due, if_pos due, Nat.mul_add, Nat.add_comm (3 * _), ← Nat.add_assoc]
  · simp only [if_neg due, Nat.add_zero]

end Step

-- The stream, the stride and the list stay in step.
theorem corrupt_run (landmarks : List (Landmark α)) (i draws : Nat) :
    corruptFrom source stdDev stride i draws landmarks =
      (landmarks.mapIdx (Landmark.struck source stdDev stride i draws landmarks),
        Nat.count (Landmark.Due stride i landmarks) landmarks.length) := by
  induction landmarks generalizing i draws with
  | nil => rfl
  | cons l rest ih =>
      rw [List.mapIdx_cons, List.length_cons, count_next, struck_first]
      simp only [struck_next]
      by_cases due : Landmark.Due stride i (l :: rest) 0
      · rw [corrupt_due source stdDev stride i draws l rest due, ih]
        simp only [if_pos due]
      · rw [corrupt_kept source stdDev stride i draws l rest due, ih]
        simp only [if_neg due, Nat.add_zero]

theorem due_stored {β : Type} (landmarks : List (Landmark β)) (k : Nat) (l : Landmark β)
    (there : landmarks[k]? = some l) :
    Landmark.Due stride 0 landmarks k ↔ stride ∣ k ∧ l.isTriangulated = true := by
  rw [Landmark.Due, Nat.zero_add, there]
  rfl

-- Where every landmark has a position, it is every n-th that is due.
theorem due_everywhere {β : Type} (landmarks : List (Landmark β)) (positive : 1 ≤ stride)
    (triangulated : ∀ l ∈ landmarks, l.isTriangulated = true) :
    (Nat.count (Landmark.Due stride 0 landmarks) landmarks.length : ℤ) = ⌈(landmarks.length : ℚ) / stride⌉ := by
  have multiples : Nat.count (Landmark.Due stride 0 landmarks) landmarks.length =
      Nat.count (· ≡ 0 [MOD stride]) landmarks.length := by
    rw [Nat.count_eq_card_filter_range, Nat.count_eq_card_filter_range]
    congr 1
    apply Finset.filter_congr
    intro k inside
    have there := List.getElem?_eq_getElem (Finset.mem_range.mp inside)
    rw [due_stored stride landmarks k _ there, Nat.modEq_zero_iff_dvd]
    exact and_iff_left (triangulated _ (List.getElem_mem _))
  rw [multiples, Nat.count_modEq_card_eq_ceil _ positive, Nat.zero_mod, Nat.cast_zero, sub_zero]

-- A map before and after: each landmark that is due has moved by its own three draws, and nothing else has changed.
structure Map.EveryNthMoved (before after : Map α) : Prop where
  graph : after.toPoseGraph = before.toPoseGraph
  index : after.index = before.index
  length : after.landmarks.length = before.landmarks.length
  kept : ∀ k l, before.landmarks[k]? = some l → ¬ stride ∣ k ∨ l.position = none → after.landmarks[k]? = some l
  moved : ∀ k l p, before.landmarks[k]? = some l → stride ∣ k → l.position = some p →
    let n := 3 * Nat.count (Landmark.Due stride 0 before.landmarks) k
    let noise : Vec3 α := Vec3.scale ⟨source.normal n, source.normal (n + 1), source.normal (n + 2)⟩ stdDev
    after.landmarks[k]? = some { l with position := some (p + noise), quality := .unknown }

theorem struck_moved (map : Map α) :
    map.EveryNthMoved source stdDev stride
      { map with landmarks := map.landmarks.mapIdx (Landmark.struck source stdDev stride 0 0 map.landmarks) } := by
  have found : ∀ (k : Nat) (l : Landmark α), map.landmarks[k]? = some l →
      (map.landmarks.mapIdx (Landmark.struck source stdDev stride 0 0 map.landmarks))[k]? =
        some (l.struck source stdDev stride 0 0 map.landmarks k) := by
    intro k l there
    rw [List.getElem?_mapIdx, there, Option.map_some]
  refine ⟨rfl, rfl, List.length_mapIdx, fun k l there kept => ?_, fun k l p there divides placed => ?_⟩
  · have skipped : ¬ Landmark.Due stride 0 map.landmarks k := by
      rw [due_stored stride _ k l there, Landmark.isTriangulated]
      rcases kept with apart | unplaced
      · exact fun due => apart due.1
      · simp [unplaced]
    rw [found k l there, Landmark.struck, if_neg skipped]
  · have due : Landmark.Due stride 0 map.landmarks k := by
      rw [due_stored stride _ k l there, Landmark.isTriangulated, placed]
      exact ⟨divides, rfl⟩
    rw [found k l there, Landmark.struck, if_pos due, Landmark.disturbed, placed, Nat.zero_add]
    rfl

theorem corruption_strided (map : Map α) (positive : 1 ≤ stride) :
    ∃ after, map.corrupt source stdDev stride =
        .ok (after, Nat.count (Landmark.Due stride 0 map.landmarks) map.landmarks.length) ∧
      map.EveryNthMoved source stdDev stride after ∧
      ((∀ l ∈ map.landmarks, l.isTriangulated = true) →
        (Nat.count (Landmark.Due stride 0 map.landmarks) map.landmarks.length : ℤ) =
          ⌈(map.landmarks.length : ℚ) / stride⌉) := by
  refine ⟨_, ?_, struck_moved source stdDev stride map, due_everywhere stride map.landmarks positive⟩
  rw [Map.corrupt, require_bind (0 < stride) _ _ positive, corrupt_run]
  rfl

-- The landmark in the middle has no position, and the last one takes the fourth draw and the next two.
def gappedMap : Map ℝ :=
  let seen (k : UInt64) : Landmark ℝ := ⟨⟨k⟩, ⟨1⟩, some ⟨1, 1, 1⟩, .good, []⟩
  ⟨⟨Table.empty, Table.empty⟩, [seen 1, seen 2, ⟨⟨3⟩, ⟨1⟩, none, .unknown, []⟩, seen 4, seen 5], Table.empty⟩

def countingSource : RandomSource ℝ := ⟨fun _ low _ => low, fun _ low _ => low, fun n => n⟩

theorem gap_takes_no_draws :
    1 ≤ 2 ∧ ∃ after, gappedMap.corrupt countingSource 2 2 = .ok (after, 2) ∧
      after.landmarks[4]? = some ⟨⟨5⟩, ⟨1⟩, some ⟨7, 9, 11⟩, .unknown, []⟩ := by
  obtain ⟨after, done, moved, _⟩ := corruption_strided countingSource 2 2 gappedMap (by decide)
  refine ⟨by decide, after, done, ?_⟩
  have taken : Nat.count (Landmark.Due 2 0 gappedMap.landmarks) 4 = 1 := rfl
  have last := moved.moved 4 _ _ rfl (by decide) rfl
  rw [taken] at last
  rw [last]
  norm_num [countingSource, add_coordinates, Vec3.scale]

end LandmarkMap
