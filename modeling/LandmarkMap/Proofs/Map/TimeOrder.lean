import Mathlib.Algebra.Order.Ring.Int
import Mathlib.Data.List.Perm.Basic
import LandmarkMap.Map.Interpolation
import LandmarkMap.Proofs.Map.Consistency

set_option autoImplicit false

namespace LandmarkMap

variable {α : Type}

-- The nanoseconds as a number that knows no overflow.
def Timestamp.instant (t : Timestamp) : ℤ := t.nanos.toInt

theorem precedes_instant (a b : Timestamp) : a.precedes b = true ↔ a.instant ≤ b.instant := by
  rw [Timestamp.precedes, decide_eq_true_eq, Int64.le_iff_toInt_le]
  rfl

theorem not_precedes_instant (a b : Timestamp) : a.precedes b = false ↔ b.instant < a.instant := by
  rw [← Bool.not_eq_true, precedes_instant, not_le]

theorem instant_injective (a b : Timestamp) (same : a.instant = b.instant) : a = b := by
  cases a
  cases b
  exact congrArg Timestamp.mk (Int64.toInt_inj.mp same)

def Vertex.sample (v : Vertex α) : PoseSample α := ⟨v.time, v.state.pose⟩

-- Vertices in the order of time; those of one time stay in the order in which they were added.
structure TimeOrdered (added ordered : List (Vertex α)) : Prop where
  same : ordered.Perm added
  ascending : ordered.Pairwise fun v w => v.time.instant ≤ w.time.instant
  stable : ∀ t, (ordered.filter fun v => v.time = t) = added.filter fun v => v.time = t

def sortByTime (added : List (Vertex α)) : List (Vertex α) := added.mergeSort fun v w => v.time.precedes w.time

theorem precedes_trans (u v w : Vertex α) (first : u.time.precedes v.time = true) (second : v.time.precedes w.time = true) :
    u.time.precedes w.time = true := by
  rw [precedes_instant] at *
  exact first.trans second

theorem precedes_total (v w : Vertex α) : (v.time.precedes w.time || w.time.precedes v.time) = true := by
  rw [Bool.or_eq_true, precedes_instant, precedes_instant]
  exact le_total _ _

theorem sorted_by_time (added : List (Vertex α)) : TimeOrdered added (sortByTime added) := by
  refine ⟨List.mergeSort_perm _ _, ?_, fun t => ?_⟩
  · exact (List.pairwise_mergeSort precedes_trans precedes_total added).imp fun before => (precedes_instant _ _).mp before
  · have together : (added.filter fun v => v.time = t).Pairwise fun v w => v.time.precedes w.time = true := by
      refine List.pairwise_of_forall_mem_list fun v first w second => ?_
      rw [precedes_instant, of_decide_eq_true (List.mem_filter.mp first).2, of_decide_eq_true (List.mem_filter.mp second).2]
    have inside := List.sublist_mergeSort precedes_trans precedes_total together List.filter_sublist
    have kept := inside.filter fun v => v.time = t
    rw [List.filter_filter] at kept
    simp only [Bool.and_self] at kept
    exact (kept.eq_of_length ((List.mergeSort_perm _ _).filter _).length_eq.symm).symm

theorem samples_of_distinct_times (added shuffled : List (Vertex α))
    (order : (shuffled.map Vertex.sample).Perm (added.map Vertex.sample))
    (distinct : ∀ v ∈ added, ∀ w ∈ added, v.time = w.time → v = w) :
    (sortByTime shuffled).map Vertex.sample = (sortByTime added).map Vertex.sample := by
  have first := sorted_by_time added
  have second := sorted_by_time shuffled
  have same := ((second.same.map Vertex.sample).trans order).trans (first.same.map Vertex.sample).symm
  have ascending : ∀ vertices : List (Vertex α), (vertices.Pairwise fun v w => v.time.instant ≤ w.time.instant) →
      (vertices.map Vertex.sample).Pairwise fun s r => s.time.instant ≤ r.time.instant :=
    fun vertices pairs => List.pairwise_map.mpr pairs
  refine List.Perm.eq_of_pairwise ?_ (ascending _ second.ascending) (ascending _ first.ascending) same
  intro s r left right before after
  obtain ⟨v, early, rfl⟩ := List.mem_map.mp (same.mem_iff.mp left)
  obtain ⟨w, late, rfl⟩ := List.mem_map.mp right
  rw [distinct v (first.same.mem_iff.mp early) w (first.same.mem_iff.mp late)
    (instant_injective _ _ (le_antisymm before after))]

variable [Scalar α]

def PoseGraph.Stores (g : PoseGraph α) (ids : List VertexId) (vertices : List (Vertex α)) : Prop :=
  List.Forall₂ (fun id v => g.vertices.get? id = some v) ids vertices

theorem stores_map (g : PoseGraph α) (ids : List VertexId) (vertices : List (Vertex α)) :
    g.Stores ids vertices ↔ ids.map g.vertices.get? = vertices.map some := by
  rw [← List.forall₂_eq_eq_eq, List.forall₂_map_left_iff, List.forall₂_map_right_iff]
  rfl

theorem listed_stored (g : PoseGraph α) (id : MissionId) (m : Mission α) (lists : g.Lists id m) :
    ∃ added, g.Stores m.vertices added := by
  have safe : ¬ Faults (m.vertices.mapM g.vertex) := by
    rw [map_m_faults]
    rintro ⟨v, member, cause, lost⟩
    obtain ⟨vertex, stored, _⟩ := (lists.members v).mp member
    cases ((vertex_ok g v vertex).mpr stored).symm.trans lost
  obtain ⟨added, found⟩ := faultless_has_value _ safe
  exact ⟨added, ((map_m_ok _ _ _).mp found).imp fun _ _ read => (vertex_ok g _ _).mp read⟩

-- The vertices of a mission, in no order.
def PoseGraph.Visits (g : PoseGraph α) (m : Mission α) (v : Vertex α) : Prop :=
  ∃ id ∈ m.vertices, g.vertices.get? id = some v

theorem stored_visits (g : PoseGraph α) (m : Mission α) (added : List (Vertex α)) (stored : g.Stores m.vertices added)
    (v : Vertex α) : v ∈ added ↔ g.Visits m v := by
  rw [← List.mem_map_of_injective (Option.some_injective _), ← (stores_map g _ _).mp stored, List.mem_map]
  rfl

-- The times from the first vertex of a mission to its last one.
def PoseGraph.Spans (g : PoseGraph α) (m : Mission α) (t : Timestamp) : Prop :=
  (∃ v, g.Visits m v ∧ v.time.instant ≤ t.instant) ∧ ∃ v, g.Visits m v ∧ t.instant ≤ v.time.instant

-- The nanoseconds from the first vertex of a mission to its last one fit a word.
def PoseGraph.FitsClock (g : PoseGraph α) (m : Mission α) : Prop :=
  ∀ v w, g.Visits m v → g.Visits m w → v.time.instant - w.time.instant ≤ Int64.maxValue.toInt

theorem time_ordered_visits (g : PoseGraph α) (m : Mission α) (added ordered : List (Vertex α))
    (stored : g.Stores m.vertices added) (order : TimeOrdered added ordered) (v : Vertex α) :
    v ∈ ordered ↔ g.Visits m v := by
  rw [order.same.mem_iff, stored_visits g m added stored]

theorem spans_ends (g : PoseGraph α) (m : Mission α) (added ordered : List (Vertex α)) (stored : g.Stores m.vertices added)
    (order : TimeOrdered added ordered) (first last : Vertex α) (head : ordered.head? = some first)
    (tail : ordered.getLast? = some last) (t : Timestamp) :
    g.Spans m t ↔ first.time.precedes t = true ∧ t.precedes last.time = true := by
  have visits := time_ordered_visits g m added ordered stored order
  have ascending := order.ascending
  rw [precedes_instant, precedes_instant]
  constructor
  · rintro ⟨⟨v, before, early⟩, w, after, late⟩
    obtain ⟨later, rfl⟩ := List.head?_eq_some_iff.mp head
    have lowest : first.time.instant ≤ v.time.instant := by
      rcases List.mem_cons.mp ((visits v).mpr before) with rfl | member
      · exact le_refl _
      · exact (List.pairwise_cons.mp ascending).1 v member
    obtain ⟨earlier, same⟩ := List.getLast?_eq_some_iff.mp tail
    rw [same] at ascending visits
    have highest : w.time.instant ≤ last.time.instant := by
      rcases List.mem_append.mp ((visits w).mpr after) with member | final
      · exact (List.pairwise_append.mp ascending).2.2 w member last List.mem_cons_self
      · rw [List.mem_singleton.mp final]
    exact ⟨lowest.trans early, late.trans highest⟩
  · rintro ⟨early, late⟩
    exact ⟨⟨first, (visits first).mp (List.mem_of_mem_head? head), early⟩,
      last, (visits last).mp (List.mem_of_mem_getLast? tail), late⟩

theorem samples_stored (map : Map α) (m : Mission α) (added : List (Vertex α)) (stored : map.Stores m.vertices added) :
    map.samples m = .ok ((sortByTime added).map Vertex.sample) := by
  have read : (m.vertices.mapM fun id => do
      let vertex ← map.vertex id
      return (⟨vertex.time, vertex.state.pose⟩ : PoseSample α)) = .ok (added.map Vertex.sample) := by
    rw [map_m_ok, List.forall₂_map_right_iff]
    refine List.Forall₂.imp (fun id v found => ?_) stored
    rw [(vertex_ok map.toPoseGraph id v).mpr found, ok_bind]
    rfl
  have sorted : (sortByTime added).map Vertex.sample =
      (added.map Vertex.sample).mergeSort fun a b => a.time.precedes b.time := List.map_mergeSort fun _ _ _ _ => rfl
  rw [Map.samples, read, ok_bind, sorted]
  rfl

-- The same poses at the same times, whatever the order in which the vertices came.
theorem samples_reordered (g other : PoseGraph α) (ids others : List VertexId) (added shuffled : List (Vertex α))
    (stored : g.Stores ids added) (kept : other.Stores others shuffled) (order : others.Perm ids)
    (same : ∀ id ∈ ids, (other.vertices.get? id).map Vertex.sample = (g.vertices.get? id).map Vertex.sample) :
    (shuffled.map Vertex.sample).Perm (added.map Vertex.sample) := by
  have listed : ∀ (h : PoseGraph α) keys vertices, h.Stores keys vertices →
      (vertices.map Vertex.sample).map some = keys.map fun id => (h.vertices.get? id).map Vertex.sample := by
    intro h keys vertices found
    have pairs := congrArg (List.map (Option.map Vertex.sample)) ((stores_map h keys vertices).mp found)
    rw [List.map_map, List.map_map] at pairs
    rw [List.map_map]
    exact pairs.symm
  rw [← List.map_perm_map_iff (Option.some_injective _), listed other _ _ kept, listed g _ _ stored,
    List.map_congr_left fun id member => same id (order.mem_iff.mp member)]
  exact order.map _

end LandmarkMap
