import LandmarkMap.Proofs.Map.PassFaults

set_option autoImplicit false

namespace LandmarkMap

variable {α : Type} [Scalar α]

-- The landmarks that a cloud is made of.
def Map.shown (map : Map α) (onlyGood : Bool) : List (Landmark α) :=
  map.landmarks.filter fun l => l.isTriangulated && (!onlyGood || decide (l.quality = .good))

-- All channels of a cloud are those of its landmarks, one after the other.
structure Cloud.Shows (cloud : Cloud α) (map : Map α) (shown : List (Landmark α)) : Prop where
  points : ∃ ps, List.Forall₂ (fun l p => map.landmarkInGlobal l = .ok p) shown ps ∧ cloud.xyz = ps.flatMap Vec3.toList
  colors : cloud.colors = shown.flatMap fun l => l.quality.color
  scalars : cloud.scalars = shown.map fun l => Scalar.ofNat l.observations.length
  normals : cloud.normals = []

theorem empty_shows (map : Map α) : (Cloud.empty : Cloud α).Shows map [] := ⟨⟨[], .nil, rfl⟩, rfl, rfl, rfl⟩

theorem push_landmark_shows (map : Map α) (shown : List (Landmark α)) (l : Landmark α) (before after : Cloud α)
    (shows : before.Shows map shown) (pushed : map.pushLandmark before l = .ok after) : after.Shows map (shown ++ [l]) := by
  obtain ⟨p, located, pushed⟩ := (bind_ok _ _ _).mp pushed
  cases (pure_ok _ _).mp pushed
  obtain ⟨⟨ps, each, points⟩, colors, scalars, normals⟩ := shows
  refine ⟨⟨ps ++ [p], List.rel_append each (.cons located .nil), ?_⟩, ?_, ?_, normals⟩
  · simp [Cloud.push, points]
  · simp [Cloud.push, colors]
  · simp [Cloud.push, scalars]

theorem cloud_shows (map : Map α) (onlyGood : Bool) (cloud : Cloud α) (done : map.cloud onlyGood = .ok cloud) :
    cloud.Shows map (map.shown onlyGood) :=
  fold_keeps _ (fun shown cloud => cloud.Shows map shown) Cloud.empty (empty_shows map)
    (fun shown l before after => push_landmark_shows map shown l before after) (map.shown onlyGood) cloud
    ((cloud_folds map onlyGood).symm.trans done)

theorem triples_count {τ ρ : Type} (f : τ → List ρ) (triple : ∀ item, (f item).length = 3) (items : List τ) :
    (items.flatMap f).length = 3 * items.length := by
  induction items with
  | nil => rfl
  | cons item rest ih =>
      rw [List.flatMap_cons, List.length_append, ih, List.length_cons, triple]
      omega

theorem color_length (quality : Quality) : quality.color.length = 3 := by
  cases quality <;> rfl

theorem shows_size (cloud : Cloud α) (map : Map α) (shown : List (Landmark α)) (shows : cloud.Shows map shown) :
    cloud.xyz.length = 3 * shown.length ∧ cloud.size = shown.length := by
  obtain ⟨ps, each, points⟩ := shows.points
  have coordinates : cloud.xyz.length = 3 * shown.length := by
    rw [points, triples_count _ fun _ => rfl, each.length_eq]
  refine ⟨coordinates, ?_⟩
  rw [Cloud.size, coordinates]
  omega

theorem shows_consistent (cloud : Cloud α) (map : Map α) (shown : List (Landmark α)) (shows : cloud.Shows map shown) :
    cloud.isConsistent = true := by
  obtain ⟨coordinates, size⟩ := shows_size cloud map shown shows
  have colors : cloud.colors.length = 3 * cloud.size := by
    rw [shows.colors, triples_count _ fun l : Landmark α => color_length l.quality, size]
  have scalars : cloud.scalars.length = cloud.size := by
    rw [shows.scalars, List.length_map, size]
  simp [Cloud.isConsistent, coordinates, colors, scalars, shows.normals]

end LandmarkMap
