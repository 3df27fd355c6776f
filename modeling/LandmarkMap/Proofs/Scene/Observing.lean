import LandmarkMap.Proofs.Camera.Projection
import LandmarkMap.Proofs.Map.Consistency
import LandmarkMap.Proofs.Scene.Draws
import LandmarkMap.Proofs.Scene.Staging

set_option autoImplicit false

namespace LandmarkMap

variable {α : Type} [Scalar α]

-- The keypoint at which a mounted camera sees a point, none where it does not.
def MountedCamera.sight (mount : MountedCamera α) (body : Pose α) (p : Vec3 α) : Except (Fault α) (Option (Vec2 α)) := do
  let projection ← mount.camera.project ((mount.fromBody * body.inverse).apply p)
  return if projection.outcome = .visible then some projection.keypoint else none

theorem sight_defined (mount : MountedCamera α) (body : Pose α) (p : Vec3 α) : ∃ seen, mount.sight body p = .ok seen := by
  obtain ⟨projection, projected⟩ := project_defined mount.camera ((mount.fromBody * body.inverse).apply p)
  rw [MountedCamera.sight, projected, ok_bind]
  exact ⟨_, rfl⟩

namespace Scene

variable (c : SceneConfig α) (source : RandomSource α)

-- A vertex and a camera with its number.
abbrev View (α : Type) [Scalar α] := Nat × MountedCamera α × Nat

def views (rig : Rig α) : List (View α) := (List.range c.vertices).flatMap fun v => rig.mounts.zipIdx.map fun m => (v, m)

theorem view_member (rig : Rig α) (view : View α) (member : view ∈ views c rig) :
    view.1 < c.vertices ∧ rig.mounts[view.2.2]? = some view.2.1 := by
  obtain ⟨v, inside, there⟩ := List.mem_flatMap.mp member
  obtain ⟨m, mounted, rfl⟩ := List.mem_map.mp there
  exact ⟨List.mem_range.mp inside, List.mem_zipIdx_iff_getElem?.mp mounted⟩

-- Where a point is seen and at which keypoint.
abbrev Sighting (α : Type) := (VertexId × Nat) × Vec2 α

def glimpse (p : Vec3 α) (view : View α) : Option (Sighting α) :=
  (view.2.1.sight (bodyPose c view.1) p).toOption.join.map fun keypoint => ((Id.ofNat view.1, view.2.2), keypoint)

theorem observe_unseen (id : LandmarkId) (p : Vec3 α) (view : View α) (d : Draft α) (unseen : glimpse c p view = none) :
    observe c source id p view.1 view.2.2 view.2.1 d = .ok d := by
  obtain ⟨projection, projected⟩ := project_defined view.2.1.camera
    ((view.2.1.fromBody * (bodyPose c view.1).inverse).apply p)
  rw [observe, projected, ok_bind]
  by_cases visible : projection.outcome = .visible
  · rw [glimpse, MountedCamera.sight, projected, ok_bind, if_pos visible] at unseen
    cases unseen
  · exact if_pos visible

theorem observe_seen (id : LandmarkId) (p : Vec3 α) (view : View α) (d : Draft α) (sighting : Sighting α)
    (seen : glimpse c p view = some sighting) :
    sighting.1 = (Id.ofNat view.1, view.2.2) ∧ observe c source id p view.1 view.2.2 view.2.1 d =
      (fun map => ⟨map, (drawNoise source d.draws c.pixelNoise).2⟩) <$>
        (Map.addObservation id sighting.1.1 sighting.1.2
          (sighting.2 + (drawNoise source d.draws c.pixelNoise).1)).perform d.map := by
  obtain ⟨projection, projected⟩ := project_defined view.2.1.camera
    ((view.2.1.fromBody * (bodyPose c view.1).inverse).apply p)
  rw [observe, projected, ok_bind]
  by_cases visible : projection.outcome = .visible
  · rw [glimpse, MountedCamera.sight, projected, ok_bind, if_pos visible] at seen
    cases seen
    refine ⟨rfl, ?_⟩
    rw [if_neg (not_not_intro visible)]
    dsimp only
    rw [draft_update, map_eq_pure_bind, map_eq_pure_bind, bind_assoc]
    rfl
  · rw [glimpse, MountedCamera.sight, projected, ok_bind, if_neg visible] at seen
    cases seen

-- The keypoint that an observation at a place names, and that it shows the landmark.
def Records (g : PoseGraph α) (id : LandmarkId) (o : Observation) (place : VertexId × Nat) (keypoint : Vec2 α) : Prop :=
  (o.vertex, o.frame) = place ∧ ∃ v f, g.vertices.get? o.vertex = some v ∧ v.frames[o.frame]? = some f ∧
    f.landmarks[o.keypoint]? = some id ∧ f.keypoints[o.keypoint]? = some keypoint

-- The same with the noise that was drawn for it.
def Measures (g : PoseGraph α) (id : LandmarkId) (o : Observation) (sighting : Sighting α) : Prop :=
  ∃ draws, Records g id o sighting.1 (sighting.2 + (drawNoise source draws c.pixelNoise).1)

section Keypoints

variable (g : PoseGraph α) (vertex : VertexId) (frame : Nat) (keypoint : Vec2 α) (landmark : LandmarkId)

theorem prefix_found {τ : Type} (before after : List τ) (i : Nat) (item : τ) (grown : before <+: after)
    (found : before[i]? = some item) : after[i]? = some item := by
  obtain ⟨inside, same⟩ := List.getElem?_eq_some_iff.mp found
  rw [List.prefix_iff_getElem?.mp grown i inside, same]

omit [Scalar α] in
theorem frames_grow (v : Vertex α) (i : Nat) (f : Frame α) (framed : v.frames[i]? = some f) :
    ∃ later, (v.addKeypoint frame keypoint landmark).frames[i]? = some later ∧
      f.landmarks <+: later.landmarks ∧ f.keypoints <+: later.keypoints := by
  rw [Vertex.addKeypoint, List.getElem?_modify, framed]
  by_cases here : frame = i
  · exact ⟨f.add keypoint landmark, congrArg some (if_pos here), List.prefix_append _ _, List.prefix_append _ _⟩
  · exact ⟨f, congrArg some (if_neg here), List.prefix_rfl, List.prefix_rfl⟩

theorem records_kept (id : LandmarkId) (o : Observation) (place : VertexId × Nat) (seen : Vec2 α)
    (recorded : Records g id o place seen) :
    Records { g with vertices := g.vertices.modify vertex (·.addKeypoint frame keypoint landmark) } id o place seen := by
  obtain ⟨located, v, f, stored, framed, named, shown⟩ := recorded
  refine ⟨located, ?_⟩
  by_cases here : o.vertex = vertex
  · obtain ⟨later, grown, landmarks, keypoints⟩ := frames_grow frame keypoint landmark v o.frame f framed
    refine ⟨v.addKeypoint frame keypoint landmark, later, ?_, grown, prefix_found _ _ _ _ landmarks named,
      prefix_found _ _ _ _ keypoints shown⟩
    rw [Table.get_modify, if_pos here, stored]
    rfl
  · refine ⟨v, f, ?_, framed, named, shown⟩
    rw [Table.get_modify, if_neg here, stored]

theorem records_new (v : Vertex α) (f : Frame α) (stored : g.vertices.get? vertex = some v) (framed : v.frames[frame]? = some f)
    (aligned : v.Aligned) :
    Records { g with vertices := g.vertices.modify vertex (·.addKeypoint frame keypoint landmark) } landmark
      ⟨vertex, frame, f.keypoints.length⟩ (vertex, frame) keypoint := by
  have length := aligned f (List.mem_of_getElem? framed)
  refine ⟨rfl, v.addKeypoint frame keypoint landmark, f.add keypoint landmark, ?_, ?_, ?_, ?_⟩
  · rw [Table.get_modify_self, stored]
    rfl
  · rw [Vertex.addKeypoint, List.getElem?_modify, framed]
    exact congrArg some (if_pos rfl)
  · exact (concat_found _ _ _ _).mpr (.inr ⟨length.symm, rfl⟩)
  · exact (concat_found _ _ _ _).mpr (.inr ⟨rfl, rfl⟩)

theorem grounded_kept (rig : Rig α) (is : List Nat) (grounded : Grounded c rig is g) :
    Grounded c rig is { g with vertices := g.vertices.modify vertex (·.addKeypoint frame keypoint landmark) } := by
  refine ⟨grounded.alone, grounded.mission, fun id => ?_, fun i member => ?_⟩
  · rw [Table.contains_modify]
    exact grounded.listed id
  · obtain ⟨v, stored, stands⟩ := grounded.stands i member
    rw [Table.get_modify, stored]
    by_cases here : (Id.ofNat i : VertexId) = vertex
    · exact ⟨_, if_pos here, add_keypoint_stands c i v stands frame keypoint landmark⟩
    · exact ⟨v, if_neg here, stands⟩

end Keypoints

-- A landmark at its place, looked for in the views so far.
structure Settled (g : PoseGraph α) (i : Nat) (p : Vec3 α) (seen : List (View α)) (l : Landmark α) : Prop where
  id : l.id = Id.ofNat i
  mission : l.mission = home
  position : l.position = some p
  quality : l.quality = .unknown
  observations : List.Forall₂ (Measures c source g (Id.ofNat i)) l.observations (seen.filterMap (glimpse c p))

def Bears (map : Map α) (i : Nat) (p : Vec3 α) (seen : List (View α)) : Prop :=
  ∃ l, map.landmarks[i]? = some l ∧ Settled c source map.toPoseGraph i p seen l

-- A scene with its vertices and `n` landmarks, which the index finds.
structure Stocked (rig : Rig α) (n : Nat) (map : Map α) : Prop where
  grounded : Grounded c rig (List.range c.vertices) map.toPoseGraph
  count : map.landmarks.length = n
  indexed : ∀ i < n, map.index.get? (Id.ofNat i) = some i
  fresh : ∀ i, n ≤ i → Nameable i → map.index.contains (Id.ofNat i) = false

-- The landmarks so far, each with the views in which it was looked for.
structure Populated (rig : Rig α) (points : List (Vec3 α × List (View α))) (map : Map α) : Prop where
  stocked : Stocked c rig points.length map
  bears : ∀ i p seen, points[i]? = some (p, seen) → Bears c source map i p seen

section Landmarks

variable (rig : Rig α) (points : List (Vec3 α × List (View α))) (p : Vec3 α) (seen : List (View α)) (view : View α)

theorem populated_append (map : Map α) :
    Populated c source rig (points ++ [(p, seen)]) map ↔
      Stocked c rig (points.length + 1) map ∧
        (∀ i q looked, points[i]? = some (q, looked) → Bears c source map i q looked) ∧
          Bears c source map points.length p seen := by
  have length : (points ++ [(p, seen)]).length = points.length + 1 := by rw [List.length_append, List.length_singleton]
  constructor
  · rintro ⟨stocked, bears⟩
    exact ⟨length ▸ stocked, fun i q looked old => bears i q looked ((concat_found _ _ _ _).mpr (.inl old)),
      bears points.length p seen ((concat_found _ _ _ _).mpr (.inr ⟨rfl, rfl⟩))⟩
  · rintro ⟨stocked, others, last⟩
    refine ⟨length ▸ stocked, fun i q looked found => ?_⟩
    rcases (concat_found _ _ _ _).mp found with old | ⟨now, same⟩
    · exact others i q looked old
    · cases same
      exact now ▸ last

-- A look that finds nothing leaves the map as it is.
theorem unseen_populated (map : Map α) (populated : Populated c source rig (points ++ [(p, seen)]) map)
    (unseen : glimpse c p view = none) : Populated c source rig (points ++ [(p, seen ++ [view])]) map := by
  have same : (seen ++ [view]).filterMap (glimpse c p) = seen.filterMap (glimpse c p) := by
    rw [List.filterMap_append, List.filterMap_cons_none unseen, List.filterMap_nil, List.append_nil]
  rw [populated_append] at populated ⊢
  obtain ⟨stocked, others, l, there, settled⟩ := populated
  exact ⟨stocked, others, l, there, settled.id, settled.mission, settled.position, settled.quality,
    same.symm ▸ settled.observations⟩

theorem seen_populated (map : Map α) (populated : Populated c source rig (points ++ [(p, seen)]) map)
    (named : Nameable points.length) (member : view ∈ views c rig) (rigged : rig.mounts.length = c.cameras)
    (sighting : Sighting α) (place : sighting.1 = (Id.ofNat view.1, view.2.2)) (visible : glimpse c p view = some sighting)
    (draws : Nat) :
    ∃ after, (Map.addObservation (Id.ofNat points.length) sighting.1.1 sighting.1.2
        (sighting.2 + (drawNoise source draws c.pixelNoise).1)).perform map = .ok after ∧
      Populated c source rig (points ++ [(p, seen ++ [view])]) after := by
  rw [populated_append] at populated
  obtain ⟨⟨grounded, count, indexed, fresh⟩, others, l, there, settled⟩ := populated
  obtain ⟨inside, mounted⟩ := view_member c rig view member
  obtain ⟨v, stored, stands⟩ := grounded.stands view.1 (List.mem_range.mpr inside)
  have framed : ∃ f, v.frames[view.2.2]? = some f := by
    obtain ⟨bound, _⟩ := List.getElem?_eq_some_iff.mp mounted
    exact ⟨_, List.getElem?_eq_getElem (by rw [stands.frames, ← rigged]; exact bound)⟩
  obtain ⟨f, framed⟩ := framed
  have slot := (slot_ok map (Id.ofNat points.length) points.length).mpr
    ⟨numbered_valid _ named, indexed _ (Nat.lt_succ_self _)⟩
  obtain ⟨⟨vertex, frame⟩, keypoint⟩ := sighting
  cases place
  rw [perform_add_observation, slot, ok_bind, (vertex_ok _ _ _).mpr stored, ok_bind, (frame_ok _ _ _).mpr framed, ok_bind]
  refine ⟨_, rfl, (populated_append c source rig points p (seen ++ [view]) _).mpr ⟨⟨?_, ?_, indexed, fresh⟩, ?_, ?_⟩⟩
  · exact grounded_kept c map.toPoseGraph _ _ _ _ rig _ grounded
  · rw [List.length_modify, count]
  · intro i q looked found
    obtain ⟨m, here, old⟩ := others i q looked found
    refine ⟨m, ?_, old.id, old.mission, old.position, old.quality, old.observations.imp ?_⟩
    · have apart : points.length ≠ i := fun same => by
        rw [← same, List.getElem?_eq_none (Nat.le_refl _)] at found
        cases found
      rw [List.getElem?_modify, here]
      exact congrArg some (if_neg apart)
    · rintro o sighting ⟨drawn, recorded⟩
      exact ⟨drawn, records_kept map.toPoseGraph _ _ _ _ _ o _ _ recorded⟩
  · refine ⟨l.observe ⟨Id.ofNat view.1, view.2.2, f.keypoints.length⟩, ?_, settled.id, settled.mission, settled.position,
      settled.quality, ?_⟩
    · rw [List.getElem?_modify, there]
      exact congrArg some (if_pos rfl)
    · rw [List.filterMap_append, List.filterMap_cons_some visible, List.filterMap_nil]
      refine List.rel_append (settled.observations.imp ?_) (.cons ?_ .nil)
      · rintro o sighting ⟨drawn, recorded⟩
        exact ⟨drawn, records_kept map.toPoseGraph _ _ _ _ _ o _ _ recorded⟩
      · exact ⟨draws, records_new map.toPoseGraph _ _ _ _ v f stored framed stands.aligned⟩

theorem view_looked (d : Draft α) (populated : Populated c source rig (points ++ [(p, seen)]) d.map)
    (named : Nameable points.length) (member : view ∈ views c rig) (rigged : rig.mounts.length = c.cameras) :
    ∃ after, observe c source (Id.ofNat points.length) p view.1 view.2.2 view.2.1 d = .ok after ∧
      Populated c source rig (points ++ [(p, seen ++ [view])]) after.map := by
  cases visible : glimpse c p view with
  | none =>
      exact ⟨d, observe_unseen c source _ p view d visible,
        unseen_populated c source rig points p seen view _ populated visible⟩
  | some sighting =>
      obtain ⟨place, observed⟩ := observe_seen c source (Id.ofNat points.length) p view d sighting visible
      obtain ⟨after, done, grown⟩ :=
        seen_populated c source rig points p seen view d.map populated named member rigged sighting place visible d.draws
      refine ⟨⟨after, (drawNoise source d.draws c.pixelNoise).2⟩, ?_, grown⟩
      rw [observed, done]
      rfl

-- A landmark that is new, before it is looked for.
theorem landmark_added (map : Map α) (populated : Populated c source rig points map) (named : Nameable points.length)
    (landmark : Landmark α) (made : landmark = ⟨Id.ofNat points.length, home, some p, .unknown, []⟩) :
    ∃ after, (Map.addLandmark landmark).perform map = .ok after ∧ Populated c source rig (points ++ [(p, [])]) after := by
  subst made
  obtain ⟨⟨grounded, count, indexed, fresh⟩, bears⟩ := populated
  rw [perform_add_landmark, require_bind _ _ _ ((grounded.alone home).mpr rfl),
    require_bind _ _ _ (fresh points.length (Nat.le_refl _) named)]
  refine ⟨_, rfl, (populated_append c source rig points p [] _).mpr ⟨⟨grounded, ?_, ?_, ?_⟩, ?_, ?_⟩⟩
  · rw [List.length_append, List.length_singleton, count]
  · intro i inside
    rw [Table.get_insert]
    by_cases last : i = points.length
    · subst last
      rw [if_pos rfl, count]
    · have below : i < points.length := by omega
      have apart : (Id.ofNat i : LandmarkId) ≠ Id.ofNat points.length := fun same =>
        last (numbered_apart i points.length (Nat.lt_trans below named) named same)
      rw [if_neg apart, indexed i below]
  · intro i beyond valid
    have apart : (Id.ofNat i : LandmarkId) ≠ Id.ofNat points.length := fun same =>
      absurd (numbered_apart i points.length valid named same) (by omega)
    rw [Table.contains_insert, decide_eq_false apart, Bool.false_or]
    exact fresh i (by omega) valid
  · intro i q looked found
    obtain ⟨m, here, settled⟩ := bears i q looked found
    exact ⟨m, (concat_found _ _ _ _).mpr (.inl here), settled⟩
  · exact ⟨_, (concat_found _ _ _ _).mpr (.inr ⟨count.symm, rfl⟩), rfl, rfl, rfl, rfl, .nil⟩

theorem landmark_drawn (d : Draft α) (populated : Populated c source rig points d.map) (named : Nameable points.length)
    (rigged : rig.mounts.length = c.cameras) (drawable : Drawable c points.length) :
    ∃ after p, addLandmark c source home rig d points.length = .ok (after, (Id.ofNat points.length, p)) ∧
      DepthFrom source (depthRange c points.length) p.y ∧
      Populated c source rig (points ++ [(p, views c rig)]) after.map := by
  obtain ⟨⟨p, draws⟩, drawn⟩ := point_drawn c source points.length d.draws drawable
  obtain ⟨placed, added, bare⟩ := landmark_added c source rig points p d.map populated named _ rfl
  have looks : ∀ seen view before, seen ++ [view] <+: views c rig → Populated c source rig (points ++ [(p, seen)]) before.map →
      ∃ after, observe c source (Id.ofNat points.length) p view.1 view.2.2 view.2.1 before = .ok after ∧
        Populated c source rig (points ++ [(p, seen ++ [view])]) after.map := by
    intro seen view before upTo sofar
    exact view_looked c source rig points p seen view before sofar named
      (upTo.subset (List.mem_append_right _ List.mem_cons_self)) rigged
  obtain ⟨after, looked, full⟩ := fold_follows
    (fun d (view : View α) => observe c source (Id.ofNat points.length) p view.1 view.2.2 view.2.1 d)
    (fun seen d => Populated c source rig (points ++ [(p, seen)]) d.map) (views c rig) looks ⟨placed, draws⟩ bare
  refine ⟨after, p, ?_, (draw_point_ok c source _ _ p draws drawn).2, full⟩
  rw [addLandmark, drawn, ok_bind]
  dsimp only
  rw [Landmark.create, require_bind _ _ _ (numbered_valid _ named), pure_bind, draft_update]
  dsimp only [Landmark.place]
  rw [added]
  change (views c rig).foldlM
    (fun d (view : View α) => observe c source (Id.ofNat points.length) p view.1 view.2.2 view.2.1 d) _ >>= _ = _
  rw [looked]
  rfl

-- The true positions as they are listed, from the landmark `i` on.
def numberedFrom (i : Nat) (ps : List (Vec3 α)) : List (LandmarkId × Vec3 α) :=
  (ps.zipIdx i).map fun numbered => (Id.ofNat numbered.2, numbered.1)

end Landmarks

theorem landmarks_drawn (rig : Rig α) (rigged : rig.mounts.length = c.cameras) (n i : Nat)
    (points : List (Vec3 α × List (View α))) (started : points.length = i) (d : Draft α)
    (populated : Populated c source rig points d.map) (named : ∀ j < i + n, Nameable j)
    (drawable : ∀ j < i + n, i ≤ j → Drawable c j) :
    ∃ after ps, addLandmarks c source home rig n i d = .ok (after, numberedFrom i ps) ∧ ps.length = n ∧
      (∀ k p, ps[k]? = some p → DepthFrom source (depthRange c (i + k)) p.y) ∧
      Populated c source rig (points ++ ps.map fun p => (p, views c rig)) after.map := by
  induction n generalizing i points d with
  | zero =>
      refine ⟨d, [], rfl, rfl, fun k p found => ?_, ?_⟩
      · cases found
      · rwa [List.map_nil, List.append_nil]
  | succ n ih =>
      subst started
      obtain ⟨next, first, drawn, depth, grown⟩ := landmark_drawn c source rig points d populated
        (named _ (by omega)) rigged (drawable _ (by omega) (Nat.le_refl _))
      have length : (points ++ [(first, views c rig)]).length = points.length + 1 := by
        rw [List.length_append, List.length_singleton]
      obtain ⟨after, rest, done, count, depths, full⟩ := ih (points.length + 1) (points ++ [(first, views c rig)]) length next
        grown (fun j inside => named j (by omega)) fun j inside later => drawable j (by omega) (by omega)
      refine ⟨after, first :: rest, ?_, congrArg Nat.succ count, fun k p found => ?_, ?_⟩
      · rw [addLandmarks, drawn, ok_bind]
        dsimp only
        rw [done, ok_bind]
        rfl
      · cases k with
        | zero =>
            cases found
            exact depth
        | succ k =>
            have later := depths k p found
            rwa [Nat.add_right_comm, Nat.add_assoc] at later
      · rwa [List.append_assoc] at full

-- One landmark that cannot be drawn is enough to stop the scene.
theorem landmarks_refused (rig : Rig α) (rigged : rig.mounts.length = c.cameras) (n i : Nat)
    (points : List (Vec3 α × List (View α))) (started : points.length = i) (d : Draft α)
    (populated : Populated c source rig points d.map) (named : ∀ j < i + n, Nameable j) (j : Nat) (inside : j < i + n)
    (beyond : i ≤ j) (undrawable : ¬ Drawable c j) : Faults (addLandmarks c source home rig n i d) := by
  induction n generalizing i points d with
  | zero => omega
  | succ n ih =>
      subst started
      rw [addLandmarks, bind_faults]
      by_cases drawable : Drawable c points.length
      · obtain ⟨next, first, drawn, _, grown⟩ := landmark_drawn c source rig points d populated
          (named _ (by omega)) rigged drawable
        have length : (points ++ [(first, views c rig)]).length = points.length + 1 := by
          rw [List.length_append, List.length_singleton]
        have later : j ≠ points.length := fun same => undrawable (same ▸ drawable)
        have refused := ih (points.length + 1) (points ++ [(first, views c rig)]) length next grown
          (fun k within => named k (by omega)) (by omega) (by omega)
        exact .inr ⟨_, drawn, (bind_faults _ _).mpr (.inl refused)⟩
      · rw [addLandmark, bind_faults]
        exact .inl (.inl ((draw_point_faults c source points.length d.draws).mpr drawable))

end Scene

end LandmarkMap
