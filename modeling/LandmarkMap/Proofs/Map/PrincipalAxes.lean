import LandmarkMap.Proofs.Geometry.Covariance
import LandmarkMap.Proofs.Map.Gauge
import LandmarkMap.Proofs.Map.Interpolation

set_option autoImplicit false

namespace LandmarkMap

-- The same mission somewhere else in the world.
noncomputable def Map.rebase (map : Map ℝ) (id : MissionId) (base : Pose ℝ) : Map ℝ :=
  { map with missions := map.missions.modify id fun m => { m with toGlobal := base } }

-- The axes along which places are spread, least first.
structure Eigen.PrincipalAxes (axes : Eigen ℝ) (places : List (Vec3 ℝ)) : Prop where
  nonnegative : 0 ≤ axes.values.x
  ascending : axes.values.x ≤ axes.values.y ∧ axes.values.y ≤ axes.values.z
  decomposes : axes.Decomposes (sampleCovariance places)

theorem visited_positions (map : Map ℝ) (id : MissionId) (m : Mission ℝ) (found : map.missions.get? id = some m)
    (visited : List (Vertex ℝ)) (stored : map.Stores m.vertices visited)
    (home : ∀ key ∈ m.vertices, ∀ v, map.vertices.get? key = some v → v.mission = id) :
    map.vertexPositions id = .ok ((visited.map Vertex.position).map m.toGlobal.apply) := by
  rw [Map.vertexPositions, (mission_ok _ _ _).mpr found, ok_bind, map_m_ok, List.map_map, List.forall₂_map_right_iff]
  refine ((List.forall₂_and_left _ _).mpr ⟨home, stored⟩).imp fun key v listed => ?_
  obtain ⟨mission, there⟩ := listed
  rw [PoseGraph.bodyToGlobal, (vertex_ok _ _ _).mpr there, ok_bind, PoseGraph.missionToGlobal, mission v there,
    (mission_ok _ _ _).mpr found]
  exact congrArg Except.ok (product_position m.toGlobal v.state.pose)

section Axes

variable [Spectral ℝ]

theorem axes_answered (map : Map ℝ) (id : MissionId) (places : List (Vec3 ℝ))
    (positions : map.vertexPositions id = .ok places) (filled : places ≠ []) :
    map.principalAxes id = .ok (Spectral.eigen (Map.covariance places)).ascending := by
  rw [Map.principalAxes, positions, ok_bind, require_bind _ _ _ filled]
  rfl

theorem covariance_decomposed (exact : ExactEigen) (places : List (Vec3 ℝ)) (filled : places ≠ []) :
    (Spectral.eigen (Map.covariance places)).Decomposes (sampleCovariance places) := by
  have definite := covariance_definite places filled
  rw [← covariance_sampled] at definite ⊢
  exact exact _ definite

theorem axes_principal (exact : ExactEigen) (places : List (Vec3 ℝ)) (filled : places ≠ []) :
    (Spectral.eigen (Map.covariance places)).ascending.PrincipalAxes places := by
  have ordered := ascending_decomposes _ _ (covariance_decomposed exact places filled)
  exact ⟨eigenvalues_nonneg _ _ ordered (covariance_definite places filled) 0, ascending_ordered _, ordered⟩

-- The spread has no place and no direction.
theorem moved_values (exact : ExactEigen) (places : List (Vec3 ℝ)) (filled : places ≠ []) (s t : Pose ℝ)
    (first : s.IsRigid) (second : t.IsRigid) :
    (Spectral.eigen (Map.covariance (places.map t.apply))).ascending.values =
      (Spectral.eigen (Map.covariance (places.map s.apply))).ascending.values := by
  have moved : ∀ u : Pose ℝ, places.map u.apply ≠ [] := fun u none => filled (List.map_eq_nil_iff.mp none)
  refine ascending_determined _ _ _ _ (covariance_decomposed exact _ (moved s))
    (covariance_decomposed exact _ (moved t)) ?_
  rw [turned_covariance places t second filled, turned_charpoly _ _ (rotation_orthogonal _ second),
    turned_covariance places s first filled, turned_charpoly _ _ (rotation_orthogonal _ first)]

theorem principal_axes_exact (exact : ExactEigen) (operations : List (Operation ℝ)) (map : Map ℝ)
    (done : Operation.run operations Map.empty = .ok map) (id : MissionId) (m : Mission ℝ)
    (found : map.missions.get? id = some m) (filled : m.vertices ≠ []) :
    ∃ (visited : List (Vertex ℝ)) (axes : Eigen ℝ), map.Stores m.vertices visited ∧ map.principalAxes id = .ok axes ∧
      axes.PrincipalAxes ((visited.map Vertex.position).map m.toGlobal.apply) ∧
      (m.toGlobal.IsRigid → ∀ base : Pose ℝ, base.IsRigid →
        ∃ other, (map.rebase id base).principalAxes id = .ok other ∧ other.values = axes.values) := by
  have lists := (run_consistent operations map done).graph.missions id m found
  obtain ⟨visited, stored⟩ := listed_stored map.toPoseGraph id m lists
  have home : ∀ key ∈ m.vertices, ∀ v, map.vertices.get? key = some v → v.mission = id := by
    intro key listed v there
    obtain ⟨w, same, mission⟩ := (lists.members key).mp listed
    cases there.symm.trans same
    exact mission
  have placed : visited.map Vertex.position ≠ [] := by
    intro none
    rw [List.map_eq_nil_iff.mp none] at stored
    exact filled (List.forall₂_nil_right_iff.mp stored)
  have moved : ∀ u : Pose ℝ, (visited.map Vertex.position).map u.apply ≠ [] :=
    fun u none => placed (List.map_eq_nil_iff.mp none)
  have positions := visited_positions map id m found visited stored home
  refine ⟨visited, _, stored, axes_answered map id _ positions (moved _), axes_principal exact _ (moved _), ?_⟩
  intro rigid base motion
  have rebased : (map.rebase id base).missions.get? id = some { m with toGlobal := base } := by
    rw [Map.rebase]
    simp only [Table.get_modify_self, found, Option.map_some]
  have others := visited_positions (map.rebase id base) id _ rebased visited stored home
  exact ⟨_, axes_answered _ id _ others (moved base), moved_values exact _ placed m.toGlobal base rigid motion⟩

end Axes

-- The walk with the twin, and the same walk in a tilted world.
theorem twin_walk_axes :
    ∃ (_ : Spectral ℝ) (axes other : Eigen ℝ), ExactEigen ∧ Operation.run twinWalk Map.empty = .ok twinMap ∧
      twinMap.missions.get? (Id.ofNat 1) = some twinMission ∧ twinMission.vertices ≠ [] ∧
      twinMap.principalAxes (Id.ofNat 1) = .ok axes ∧
      axes.PrincipalAxes ([⟨4, 0, 0⟩, ⟨0, 0, 0⟩, ⟨1, 0, 0⟩].map twinMission.toGlobal.apply) ∧
      twinMission.toGlobal.IsRigid ∧ tilted.IsRigid ∧
      (twinMap.rebase (Id.ofNat 1) tilted).principalAxes (Id.ofNat 1) = .ok other ∧ other.values = axes.values := by
  let _ : Spectral ℝ := eigenSpectral
  have filled : twinMission.vertices ≠ [] := List.cons_ne_nil _ _
  obtain ⟨visited, axes, stored, answered, principal, moved⟩ :=
    principal_axes_exact eigen_spectral_decomposes twinWalk twinMap rfl (Id.ofNat 1) twinMission rfl filled
  have listed : visited = [walkEnd, walkStart, walkTwin] :=
    (List.map_injective_iff.mpr (Option.some_injective _)) ((stores_map _ _ _).mp stored).symm
  rw [listed] at principal
  obtain ⟨other, elsewhere, same⟩ := moved (at_position_rigid _) tilted tilted_rigid
  exact ⟨eigenSpectral, axes, other, eigen_spectral_decomposes, rfl, rfl, filled, answered, principal,
    at_position_rigid _, tilted_rigid, elsewhere, same⟩

end LandmarkMap
