import LandmarkMap.Proofs.Scene.Totality

set_option autoImplicit false

namespace LandmarkMap

variable {α : Type} [Scalar α]

-- The keypoint at which a camera of a vertex sees a point of the vertex's mission, none where it does not.
def PoseGraph.sight (g : PoseGraph α) (v : VertexId) (frame : Nat) (p : Vec3 α) : Except (Fault α) (Option (Vec2 α)) := do
  let vertex ← g.vertex v
  let mission ← g.mission vertex.mission
  (← mission.rig.mount frame).sight vertex.state.pose p

namespace Scene

variable (c : SceneConfig α) (source : RandomSource α)

-- All cameras of all vertices, vertex by vertex.
def places : List (VertexId × Nat) :=
  (List.range c.vertices).flatMap fun v => (List.range c.cameras).map fun frame => (Id.ofNat v, frame)

-- The places where a point is seen, each with the keypoint that the point projects to.
def sightings (g : PoseGraph α) (p : Vec3 α) : List (Sighting α) :=
  (places c).filterMap fun place => (g.sight place.1 place.2 p).toOption.join.map fun keypoint => (place, keypoint)

-- How a scene is put together, whatever is drawn.
structure LaidOut (s : Scene α) : Prop where
  missions : s.map.missionIds = [Id.ofNat 0]
  mission : ∃ rig, Scene.rig c = .ok rig ∧ s.map.missions.get? (Id.ofNat 0) =
    some ⟨Id.ofNat 0, Pose.identity, rig, Id.ofNat 0, (List.range c.vertices).map Id.ofNat⟩
  vertices : s.map.vertexIds = (List.range c.vertices).map Id.ofNat
  stands : ∀ i < c.vertices, ∃ v, s.map.vertices.get? (Id.ofNat i) = some v ∧ Stands c i v
  landmarks : s.map.landmarkIds = (List.range (c.landmarks + c.farLandmarks)).map Id.ofNat
  found : ∀ l ∈ s.map.landmarks, s.map.landmark l.id = .ok l
  truth : s.truth.map Prod.fst = s.map.landmarkIds
  placed : ∀ (i : Nat) l, s.map.landmarks[i]? = some l → ∃ p, s.truth[i]? = some (l.id, p) ∧ l.mission = Id.ofNat 0 ∧
    l.position = some p ∧ l.quality = .unknown
  sighted : ∀ place ∈ places c, ∀ p, ∃ seen, s.map.sight place.1 place.2 p = .ok seen
  observed : ∀ l ∈ s.map.landmarks, ∀ p, l.position = some p →
    List.Forall₂ (Measures c source s.map.toPoseGraph l.id) l.observations (sightings c s.map.toPoseGraph p)

-- Without noise a stored keypoint is the projection, but for the sign of a zero.
structure WellFormed (s : Scene α) : Prop extends LaidOut c source s where
  depths : ∀ i l p, s.map.landmarks[i]? = some l → l.position = some p →
    (depthRange c i).1 ≤ p.y ∧ p.y ≤ (depthRange c i).2
  exact : (c.pixelNoise == 0) = true → ∀ l ∈ s.map.landmarks, ∀ p, l.position = some p →
    List.Forall₂ (fun o sighting => ∃ keypoint, Records s.map.toPoseGraph l.id o sighting.1 keypoint ∧
      SamePoint keypoint sighting.2) l.observations (sightings c s.map.toPoseGraph p)

theorem places_of_views (rig : Rig α) (rigged : rig.mounts.length = c.cameras) :
    places c = (views c rig).map fun view => (Id.ofNat view.1, view.2.2) := by
  have frames : ∀ v : Nat, (List.range c.cameras).map (fun frame => ((Id.ofNat v : VertexId), frame)) =
      (rig.mounts.zipIdx.map fun m => (v, m)).map fun view => (Id.ofNat view.1, view.2.2) := by
    intro v
    rw [List.map_map, ← rigged, List.range_eq_range', ← List.zipIdx_map_snd 0 rig.mounts, List.map_map]
    rfl
  simp only [places, views, List.map_flatMap, frames]

-- What the map tells about a view is what the scene was built from.
theorem grounded_sight (rig : Rig α) (g : PoseGraph α) (grounded : Grounded c rig (List.range c.vertices) g) (view : View α)
    (member : view ∈ views c rig) (p : Vec3 α) :
    g.sight (Id.ofNat view.1) view.2.2 p = view.2.1.sight (bodyPose c view.1) p := by
  obtain ⟨inside, mounted⟩ := view_member c rig view member
  obtain ⟨v, stored, stands⟩ := grounded.stands view.1 (List.mem_range.mpr inside)
  have there : (missionWith rig (List.range c.vertices)).rig.mount view.2.2 = (.ok view.2.1 : Except (Fault α) _) :=
    (fetch_ok _ _ _).mpr mounted
  rw [PoseGraph.sight, (vertex_ok _ _ _).mpr stored, ok_bind, stands.mission, (mission_ok _ _ _).mpr grounded.mission, ok_bind,
    there, ok_bind, stands.state]
  rfl

theorem sightings_of_views (rig : Rig α) (rigged : rig.mounts.length = c.cameras) (g : PoseGraph α)
    (grounded : Grounded c rig (List.range c.vertices) g) (p : Vec3 α) :
    sightings c g p = (views c rig).filterMap (glimpse c p) := by
  rw [sightings, places_of_views c rig rigged, List.filterMap_map]
  refine List.filterMap_congr fun view member => ?_
  rw [Function.comp_apply, grounded_sight c rig g grounded view member, glimpse]

section Numbered

omit [Scalar α]

theorem numbered_found (ps : List (Vec3 α)) (i : Nat) (p : Vec3 α) (found : ps[i]? = some p) :
    (numberedFrom 0 ps)[i]? = some (Id.ofNat i, p) := by
  rw [numberedFrom, List.getElem?_map, List.getElem?_zipIdx, found, Nat.zero_add]
  rfl

theorem numbered_ids (ps : List (Vec3 α)) : (numberedFrom 0 ps).map Prod.fst = (List.range ps.length).map Id.ofNat := by
  rw [numberedFrom, List.map_map, List.range_eq_range', ← List.zipIdx_map_snd 0 ps, List.map_map]
  rfl

end Numbered

section Finished

variable (rig : Rig α) (ps : List (Vec3 α)) (map : Map α)

-- Every landmark is at the place that was drawn for it and was looked for everywhere.
theorem landmark_settled (populated : Populated c source rig (ps.map fun p => (p, views c rig)) map) (i : Nat) (l : Landmark α)
    (there : map.landmarks[i]? = some l) :
    ∃ p, ps[i]? = some p ∧ Settled c source map.toPoseGraph i p (views c rig) l := by
  obtain ⟨inside, _⟩ := List.getElem?_eq_some_iff.mp there
  rw [populated.stocked.count, List.length_map] at inside
  have drawn : ps[i]? = some ps[i] := List.getElem?_eq_getElem inside
  obtain ⟨other, same, settled⟩ := populated.bears i ps[i] (views c rig) (by rw [List.getElem?_map, drawn]; rfl)
  cases there.symm.trans same
  exact ⟨_, drawn, settled⟩

theorem landmarks_numbered (populated : Populated c source rig (ps.map fun p => (p, views c rig)) map) :
    map.landmarkIds = (List.range ps.length).map Id.ofNat := by
  have size : map.landmarks.length = ps.length := populated.stocked.count.trans (List.length_map _)
  refine List.ext_getElem (by rw [Map.landmarkIds, List.length_map, List.length_map, List.length_range, size]) ?_
  intro i first second
  have inside : i < map.landmarks.length := by rwa [Map.landmarkIds, List.length_map] at first
  obtain ⟨p, _, settled⟩ := landmark_settled c source rig ps map populated i _ (List.getElem?_eq_getElem inside)
  simp only [Map.landmarkIds, List.getElem_map, List.getElem_range, settled.id]

theorem landmark_found (populated : Populated c source rig (ps.map fun p => (p, views c rig)) map)
    (named : ∀ i < ps.length, Nameable i) (l : Landmark α) (member : l ∈ map.landmarks) : map.landmark l.id = .ok l := by
  obtain ⟨i, there⟩ := List.mem_iff_getElem?.mp member
  obtain ⟨p, drawn, settled⟩ := landmark_settled c source rig ps map populated i l there
  obtain ⟨inside, _⟩ := List.getElem?_eq_some_iff.mp drawn
  have slot := (slot_ok map (Id.ofNat i) i).mpr
    ⟨numbered_valid i (named i inside), populated.stocked.indexed i (by rwa [List.length_map])⟩
  rw [settled.id, Map.landmark, slot, ok_bind]
  exact (fetch_ok _ _ _).mpr there

theorem landmark_observed (rigged : rig.mounts.length = c.cameras)
    (populated : Populated c source rig (ps.map fun p => (p, views c rig)) map) (l : Landmark α) (member : l ∈ map.landmarks)
    (p : Vec3 α) (position : l.position = some p) :
    List.Forall₂ (Measures c source map.toPoseGraph l.id) l.observations (sightings c map.toPoseGraph p) := by
  obtain ⟨i, there⟩ := List.mem_iff_getElem?.mp member
  obtain ⟨q, _, settled⟩ := landmark_settled c source rig ps map populated i l there
  cases settled.position.symm.trans position
  rw [sightings_of_views c rig rigged map.toPoseGraph populated.stocked.grounded, settled.id]
  exact settled.observations

end Finished

theorem depth_range_checked (checked : Checked c) (i : Nat) :
    0 < (depthRange c i).1 ∧ (depthRange c i).1 ≤ (depthRange c i).2 := by
  rw [depthRange]
  by_cases near : i < c.landmarks
  · rw [if_pos near]
    exact checked.near
  · rw [if_neg near]
    exact checked.far

theorem grounded_lists (rig : Rig α) (g : PoseGraph α) (grounded : Grounded c rig (List.range c.vertices) g)
    (named : ∀ i < c.vertices, Nameable i) :
    g.missionIds = [Id.ofNat 0] ∧ g.vertexIds = (List.range c.vertices).map Id.ofNat := by
  constructor
  · refine sorted_numbers g.missions.keys 1 ?_ g.missions.distinct fun id => ?_
    · intro i first
      cases Nat.lt_one_iff.mp first
      exact zero_nameable
    · rw [mem_keys, grounded.alone]
      exact List.mem_singleton.symm
  · refine sorted_numbers g.vertices.keys c.vertices named g.vertices.distinct fun id => ?_
    rw [mem_keys, grounded.listed]

theorem built_laid_out (s : Scene α) (built : build c source = .ok s) :
    LaidOut c source s ∧ ∀ i l p, s.map.landmarks[i]? = some l → l.position = some p → DepthFrom source (depthRange c i) p.y := by
  obtain ⟨checked, rig, mounted, rigged, buildable, done⟩ := built_parts c source s built
  obtain ⟨s', ps, done', truth, count, depths, populated⟩ := furnished c source rig rigged buildable
  cases done.symm.trans done'
  have grounded := populated.stocked.grounded
  have named := landmarks_nameable c buildable.landmarks
  obtain ⟨missions, vertices⟩ := grounded_lists c rig s.map.toPoseGraph grounded (vertices_nameable c buildable.vertices)
  obtain ⟨n, more⟩ := Nat.exists_eq_succ_of_ne_zero checked.vertices
  refine ⟨⟨missions, ⟨rig, mounted, ?_⟩, vertices, ?_, ?_, ?_, ?_, ?_, ?_, ?_⟩, fun i l p there position => ?_⟩
  · have stored := grounded.mission
    rw [missionWith, more, List.range_succ_eq_map] at stored
    rw [more, List.range_succ_eq_map]
    exact stored
  · intro i inside
    exact grounded.stands i (List.mem_range.mpr inside)
  · rw [landmarks_numbered c source rig ps s.map populated, count]
  · exact landmark_found c source rig ps s.map populated (count ▸ named)
  · rw [truth, numbered_ids, landmarks_numbered c source rig ps s.map populated]
  · intro i l there
    obtain ⟨p, drawn, settled⟩ := landmark_settled c source rig ps s.map populated i l there
    exact ⟨p, by rw [truth, settled.id, numbered_found ps i p drawn], settled.mission, settled.position, settled.quality⟩
  · intro place member p
    rw [places_of_views c rig rigged] at member
    obtain ⟨view, there, rfl⟩ := List.mem_map.mp member
    rw [grounded_sight c rig s.map.toPoseGraph grounded view there]
    exact sight_defined _ _ _
  · exact landmark_observed c source rig ps s.map rigged populated
  · obtain ⟨q, drawn, settled⟩ := landmark_settled c source rig ps s.map populated i l there
    cases settled.position.symm.trans position
    exact depths i p drawn

-- A stream that keeps to its ranges keeps the landmarks in theirs.
theorem built_well_formed (s : Scene α) (built : build c source = .ok s) :
    LaidOut c source s ∧ ([OrderedScalar α] → source.InRange → WellFormed c source s) := by
  obtain ⟨laid, depths⟩ := built_laid_out c source s built
  obtain ⟨checked, _⟩ := built_parts c source s built
  refine ⟨laid, fun inRange => ⟨laid, fun i l p there position => ?_, fun silent l member p position => ?_⟩⟩
  · obtain ⟨positive, ordered⟩ := depth_range_checked c checked i
    exact depth_in_range source inRange (depthRange c i) p.y positive ordered (depths i l p there position)
  · refine (laid.observed l member p position).imp ?_
    rintro o sighting ⟨draws, recorded⟩
    exact ⟨_, recorded, no_noise source draws c.pixelNoise silent sighting.2⟩

-- A stream that always answers with the lower end.
def lowestDraws : RandomSource α := ⟨fun _ low _ => low, fun _ low _ => low, fun _ => 0⟩

theorem lowest_in_range : (lowestDraws : RandomSource Float).InRange where
  below _ low high less := ⟨Double.number_le_self low ((Double.lt_places low high).mp less).1, less⟩
  upTo _ low high ordered := ⟨Double.number_le_self low ((Double.le_places low high).mp ordered).1, ordered⟩

theorem forward_track_well_formed :
    ∃ s : Scene Float, build (steppedTrack 1) lowestDraws = .ok s ∧ WellFormed (steppedTrack 1) lowestDraws s := by
  obtain ⟨s, built⟩ := forward_double_built lowestDraws
  exact ⟨s, built, (built_well_formed (steppedTrack 1) lowestDraws s built).2 lowest_in_range⟩

end Scene

end LandmarkMap
