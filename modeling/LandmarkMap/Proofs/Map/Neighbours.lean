import LandmarkMap.Map.Survey
import LandmarkMap.Proofs.Map.Identifiers
import LandmarkMap.Proofs.Quality.Spread
import LandmarkMap.Proofs.Triangulation.Recovery

set_option autoImplicit false

namespace LandmarkMap

-- A vertex of a mission that is nearer to a place than a range.
def PoseGraph.Near (g : PoseGraph ℝ) (mission : MissionId) (place : Vec3 ℝ) (range : ℝ) (id : VertexId) : Prop :=
  ∃ w, g.vertices.get? id = some w ∧ w.mission = mission ∧ dist w.position.point place.point < range

theorem near_stored (g : PoseGraph ℝ) (mission : MissionId) (place : Vec3 ℝ) (range : ℝ) (id : VertexId) (w : Vertex ℝ)
    (stored : g.vertices.get? id = some w) :
    g.Near mission place range id ↔ w.mission = mission ∧ dist w.position.point place.point < range := by
  constructor
  · rintro ⟨_, found, near⟩
    cases stored.symm.trans found
    exact near
  · exact fun near => ⟨w, stored, near⟩

theorem near_wider (g : PoseGraph ℝ) (mission : MissionId) (place : Vec3 ℝ) (range wider : ℝ) (within : range ≤ wider)
    (id : VertexId) (near : g.Near mission place range id) : g.Near mission place wider id := by
  obtain ⟨w, stored, home, close⟩ := near
  exact ⟨w, stored, home, close.trans_le within⟩

-- The near vertices, each of them once.
structure Map.Neighbourhood (map : Map ℝ) (id : VertexId) (v : Vertex ℝ) (range : ℝ) (near : List VertexId) : Prop where
  answered : map.neighbours id range = .ok near
  ascending : near.Pairwise fun a b => a.value < b.value
  members : ∀ other, other ∈ near ↔ map.Near v.mission v.position range other

section Query

variable (map : Map ℝ) (id : VertexId) (v : Vertex ℝ) (range : ℝ)

theorem neighbours_listed (consistent : map.Consistent) (stored : map.vertices.get? id = some v) :
    ∃ near, map.Neighbourhood id v range near := by
  classical
  obtain ⟨m, home, _⟩ := (consistent.graph.vertices id v stored).home
  have lists := consistent.graph.missions v.mission m home
  have chosen : (m.vertices.filterMapM fun other => do
      let distance := ((← map.vertex other).position - v.position).norm
      return if distance < range then some other else none) =
        .ok (m.vertices.filter fun other => map.Near v.mission v.position range other) := by
    refine filter_map_m_chosen _ _ _ fun other member => ?_
    obtain ⟨w, found, same⟩ := (lists.members other).mp member
    rw [(vertex_ok _ _ _).mpr found, ok_bind, ← point_distance]
    simp only [decide_eq_true_eq, near_stored _ _ _ _ _ w found, same, true_and]
    rfl
  refine ⟨Id.sort (m.vertices.filter fun other => map.Near v.mission v.position range other), ?_, ?_, fun other => ?_⟩
  · rw [Map.neighbours, (vertex_ok _ _ _).mpr stored, ok_bind, (mission_ok _ _ _).mpr home, ok_bind, chosen]
    rfl
  · exact sort_ascending _ (lists.distinct.filter _)
  · rw [Id.sort, List.mem_mergeSort, List.mem_filter, decide_eq_true_eq]
    refine and_iff_right_of_imp fun near => ?_
    obtain ⟨w, found, same, _⟩ := near
    exact (lists.members other).mpr ⟨w, found, same⟩

variable (near : List VertexId) (neighbourhood : map.Neighbourhood id v range near)
  (stored : map.vertices.get? id = some v)

include neighbourhood stored

theorem own_neighbour : id ∈ near ↔ 0 < range := by
  rw [neighbourhood.members, near_stored _ _ _ _ _ v stored, dist_self]
  exact and_iff_right rfl

theorem mutual_neighbours (other : VertexId) (w : Vertex ℝ) (others : List VertexId)
    (there : map.vertices.get? other = some w) (around : map.Neighbourhood other w range others) :
    other ∈ near ↔ id ∈ others := by
  rw [neighbourhood.members, around.members, near_stored _ _ _ _ _ w there, near_stored _ _ _ _ _ v stored, dist_comm,
    eq_comm]

end Query

theorem neighbours_exact [Spectral ℝ] (operations : List (Operation ℝ)) (map : Map ℝ)
    (done : Operation.run operations Map.empty = .ok map) (id : VertexId) (v : Vertex ℝ)
    (stored : map.vertices.get? id = some v) (range : ℝ) :
    ∃ near, map.Neighbourhood id v range near ∧ (id ∈ near ↔ 0 < range) ∧
      (∀ wider, range ≤ wider → ∃ more, map.Neighbourhood id v wider more ∧ near ⊆ more) ∧
      ∀ other w, map.vertices.get? other = some w →
        ∃ others, map.Neighbourhood other w range others ∧ (other ∈ near ↔ id ∈ others) := by
  have consistent := run_consistent operations map done
  obtain ⟨near, listed⟩ := neighbours_listed map id v range consistent stored
  refine ⟨near, listed, own_neighbour map id v range near listed stored, fun wider within => ?_, fun other w there => ?_⟩
  · obtain ⟨more, around⟩ := neighbours_listed map id v wider consistent stored
    refine ⟨more, around, fun other member => ?_⟩
    rw [around.members]
    exact near_wider _ _ _ range wider within other ((listed.members other).mp member)
  · obtain ⟨others, around⟩ := neighbours_listed map other w range consistent there
    exact ⟨others, around, mutual_neighbours map id v range near listed stored other w others there around⟩

-- Three vertices on a line, the last of them first, and one of another mission in their middle.
noncomputable def crossedLine : List (Operation ℝ) :=
  [.addMission (Id.ofNat 1) Pose.identity offsetRig, .addMission (Id.ofNat 6) Pose.identity offsetRig,
    .addVertex (watchingVertex (Id.ofNat 9) (Id.ofNat 1) ⟨2, 0, 0⟩) (.create (Id.ofNat 9) (Id.ofNat 1) ⟨0⟩ _ 1 _ rfl),
    .addVertex (watchingVertex (Id.ofNat 7) (Id.ofNat 6) ⟨1, 0, 0⟩) (.create (Id.ofNat 7) (Id.ofNat 6) ⟨0⟩ _ 1 _ rfl),
    .addVertex (watchingVertex (Id.ofNat 3) (Id.ofNat 1) ⟨0, 0, 0⟩) (.create (Id.ofNat 3) (Id.ofNat 1) ⟨0⟩ _ 1 _ rfl),
    .addVertex (watchingVertex (Id.ofNat 4) (Id.ofNat 1) ⟨1, 0, 0⟩) (.create (Id.ofNat 4) (Id.ofNat 1) ⟨0⟩ _ 1 _ rfl)]

noncomputable def crossedMap : Map ℝ := (@Operation.run ℝ _ eigenSpectral crossedLine Map.empty).toOption.getD Map.empty

theorem crossed_line_neighbours :
    ∃ near, @Operation.run ℝ _ eigenSpectral crossedLine Map.empty = .ok crossedMap ∧
      crossedMap.neighbours (Id.ofNat 4) 2 = .ok near ∧ (near.Pairwise fun a b => a.value < b.value) ∧
      Id.ofNat 3 ∈ near ∧ Id.ofNat 4 ∈ near ∧ Id.ofNat 9 ∈ near ∧ Id.ofNat 7 ∉ near := by
  let _ : Spectral ℝ := eigenSpectral
  have reached : Operation.run crossedLine Map.empty = .ok crossedMap := rfl
  obtain ⟨near, listed, own, _⟩ := neighbours_exact crossedLine crossedMap reached (Id.ofNat 4)
    (watchingVertex (Id.ofNat 4) (Id.ofNat 1) ⟨1, 0, 0⟩) rfl 2
  have apart : ∀ x : ℝ, dist (Vec3.point ⟨x, 0, 0⟩) (Vec3.point ⟨1, 0, 0⟩) = |x - 1| := by
    intro x
    rw [point_distance, sub_coordinates, Vec3.norm, Vec3.normSq, Vec3.dot, real_sqrt]
    simp [Real.sqrt_mul_self_eq_abs]
  refine ⟨near, reached, listed.answered, listed.ascending, (listed.members _).mpr ⟨_, rfl, rfl, ?_⟩,
    own.mpr (by norm_num), (listed.members _).mpr ⟨_, rfl, rfl, ?_⟩, fun member => ?_⟩
  · exact (apart 0).trans_lt (by norm_num)
  · exact (apart 2).trans_lt (by norm_num)
  · obtain ⟨elsewhere, _⟩ := (near_stored _ _ _ _ _ _ rfl).mp ((listed.members _).mp member)
    exact absurd elsewhere (by decide)

end LandmarkMap
