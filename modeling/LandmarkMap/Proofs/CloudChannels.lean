import LandmarkMap.Proofs.Cloud

set_option autoImplicit false

namespace LandmarkMap

section Triples

variable {τ ρ : Type}

theorem triples_flat (vs : List (Vec3 ρ)) : Cloud.triples (vs.flatMap Vec3.toList) = vs := by
  induction vs with
  | nil => rfl
  | cons v rest ih => exact congrArg (v :: ·) ih

theorem triple_at (vs : List (Vec3 ρ)) (i : Nat) (v : Vec3 ρ) (there : vs[i]? = some v) :
    ∃ rest, (vs.flatMap Vec3.toList).drop (3 * i) = v.x :: v.y :: v.z :: rest := by
  induction vs generalizing i with
  | nil => cases there
  | cons w others ih =>
      cases i with
      | zero =>
          cases there
          exact ⟨_, rfl⟩
      | succ i => exact ih i there

-- The items at the marked places.
def kept (marks : List Bool) (items : List τ) : List τ := ((items.zip marks).filter (·.2)).map (·.1)

-- A channel of some of the landmarks is what is left of the channel of all of them.
theorem kept_channel (shows : τ → ρ → Prop) (single : ∀ item a b, shows item a → shows item b → a = b)
    (chosen : τ → Bool) (items : List τ) (all some : List ρ) (whole : List.Forall₂ shows items all)
    (part : List.Forall₂ shows (items.filter chosen) some) : some = kept (items.map chosen) all := by
  induction whole generalizing some with
  | nil =>
      cases part
      rfl
  | @cons item value rest others shown _ ih =>
      cases marked : chosen item with
      | false =>
          rw [List.filter_cons, marked] at part
          rw [ih some part]
          simp [kept, marked]
      | true =>
          rw [List.filter_cons, marked] at part
          obtain ⟨first, left, same, later, rfl⟩ := List.forall₂_cons_left_iff.mp part
          rw [ih left later, single item first value same shown]
          simp [kept, marked]

end Triples

variable {α : Type} [Scalar α]

-- Where a landmark is in the world.
def Map.Locates (map : Map α) (l : Landmark α) (q : Vec3 α) : Prop :=
  ∃ p base, l.position = some p ∧ map.missionToGlobal l.mission = .ok base ∧ base.apply p = q

-- The landmarks of a cloud, channel by channel and in one order.
structure Cloud.Channels (cloud : Cloud α) (map : Map α) (shown : List (Landmark α)) : Prop where
  consistent : cloud.isConsistent = true
  size : cloud.size = shown.length
  points : List.Forall₂ map.Locates shown cloud.points
  point : ∀ i q, cloud.points[i]? = some q → cloud.point i = .ok q
  colors : List.Forall₂ (fun l color => color.toList = l.quality.color) shown (Cloud.triples cloud.colors)
  scalars : cloud.scalars = shown.map fun l => Scalar.ofNat l.observations.length
  normals : cloud.normals = []

-- One cloud is what is left of another, in every channel at the same places.
structure Cloud.KeptFrom (cloud whole : Cloud α) (marks : List Bool) : Prop where
  points : cloud.points = kept marks whole.points
  colors : Cloud.triples cloud.colors = kept marks (Cloud.triples whole.colors)
  scalars : cloud.scalars = kept marks whole.scalars
  normals : cloud.normals = whole.normals

theorem color_injective : Function.Injective Quality.color := by
  intro a b same
  cases a <;> cases b <;> simp [Quality.color] at same ⊢

-- The colour of a quality as one triple.
def Quality.shade (quality : Quality) : Vec3 UInt8 := Vec3.of fun i => quality.color.getD i 0

theorem shade_listed (quality : Quality) : quality.shade.toList = quality.color := by
  cases quality <;> rfl

omit [Scalar α] in
theorem room_counted (items : Nat) (cloud : Cloud α) (roomy : Cloud.withRoom items = (.ok cloud : Except (Fault α) _)) :
    3 * items + 3 < UInt64.size := by
  obtain ⟨coordinates, product, reserved⟩ := (bind_ok _ _ _).mp roomy
  obtain ⟨fits, _⟩ := (require_bind_ok _ _ _ _).mp reserved
  rw [Word.mul] at product
  rw [Word.listBytes] at fits
  rw [UInt64.size] at product ⊢
  split at product
  · cases product
    omega
  · cases product

theorem shows_channels (cloud : Cloud α) (map : Map α) (shown : List (Landmark α)) (shows : cloud.Shows map shown)
    (counted : 3 * shown.length + 3 < UInt64.size) : cloud.Channels map shown := by
  obtain ⟨ps, each, flat⟩ := shows.points
  have points : cloud.points = ps := by rw [Cloud.points, flat, triples_flat]
  have colors : cloud.colors = (shown.map fun l => l.quality.shade).flatMap Vec3.toList := by
    rw [shows.colors, List.flatMap_map]
    simp only [shade_listed]
  refine ⟨shows_consistent cloud map shown shows, (shows_size cloud map shown shows).2, ?_, fun i q there => ?_, ?_,
    shows.scalars, shows.normals⟩
  · rw [points]
    exact each.imp fun l q located => (global_position_ok map.toPoseGraph l q).mp located
  · rw [points] at there
    obtain ⟨rest, ahead⟩ := triple_at ps i q there
    have inside : i < shown.length := each.length_eq ▸ (List.getElem?_eq_some_iff.mp there).1
    rw [Cloud.point, Word.mul, if_pos (by omega), ok_bind, Word.add, if_pos (by omega), ok_bind, flat, ahead]
    rfl
  · rw [colors, triples_flat, List.forall₂_map_right_iff, List.forall₂_same]
    exact fun l _ => shade_listed l.quality

theorem locates_single (map : Map α) (l : Landmark α) (p q : Vec3 α) (first : map.Locates l p)
    (second : map.Locates l q) : p = q := by
  have here := (global_position_ok map.toPoseGraph l p).mpr first
  have there := (global_position_ok map.toPoseGraph l q).mpr second
  exact Except.ok.inj (here.symm.trans there)

theorem good_shown (map : Map α) : map.shown true = (map.shown false).filter fun l => decide (l.quality = .good) := by
  simp [Map.shown, List.filter_filter, Bool.and_comm]

theorem good_kept (map : Map α) (whole good : Cloud α) (all : whole.Channels map (map.shown false))
    (some : good.Channels map (map.shown true)) :
    good.KeptFrom whole ((map.shown false).map fun l => decide (l.quality = .good)) := by
  have counts : ∀ shown : List (Landmark α), List.Forall₂ (fun l s => s = Scalar.ofNat l.observations.length) shown
      (shown.map fun l => (Scalar.ofNat l.observations.length : α)) := by
    intro shown
    rw [List.forall₂_map_right_iff, List.forall₂_same]
    exact fun _ _ => rfl
  have points := some.points
  have colors := some.colors
  have scalars := counts (map.shown true)
  rw [good_shown] at points colors scalars
  refine ⟨?_, ?_, ?_, some.normals.trans all.normals.symm⟩
  · exact kept_channel _ (locates_single map) _ _ _ _ all.points points
  · refine kept_channel _ (fun l a b first second => ?_) _ _ _ _ all.colors colors
    cases a
    cases b
    simpa [Vec3.toList] using first.trans second.symm
  · rw [some.scalars, all.scalars, good_shown]
    exact kept_channel _ (fun l a b first second => first.trans second.symm) _ _ _ _ (counts _) scalars

-- A cloud is given room for all landmarks of the map before any of them is looked at.
theorem landmark_cloud_channels [Spectral α] (operations : List (Operation α)) (map : Map α)
    (done : Operation.run operations Map.empty = .ok map)
    (roomy : Cloud.withRoom map.landmarks.length = (.ok Cloud.empty : Except (Fault α) (Cloud α))) :
    ∃ whole good, map.cloud false = .ok whole ∧ map.cloud true = .ok good ∧
      whole.Channels map (map.shown false) ∧ good.Channels map (map.shown true) ∧
      good.KeptFrom whole ((map.shown false).map fun l => decide (l.quality = .good)) ∧
      Function.Injective Quality.color := by
  have consistent := run_consistent operations map done
  have drawn : ∀ onlyGood, ∃ cloud, map.cloud onlyGood = .ok cloud ∧ cloud.Channels map (map.shown onlyGood) := by
    intro onlyGood
    obtain ⟨cloud, made⟩ := faultless_has_value _ (cloud_never_faults map consistent onlyGood)
    have fewer : (map.shown onlyGood).length ≤ map.landmarks.length := List.length_filter_le _ _
    have counted := room_counted _ _ roomy
    exact ⟨cloud, made, shows_channels cloud map _ (cloud_shows map onlyGood cloud made) (by omega)⟩
  obtain ⟨whole, all, channels⟩ := drawn false
  obtain ⟨good, some, others⟩ := drawn true
  exact ⟨whole, good, all, some, channels, others, good_kept map whole good channels others, color_injective⟩

-- Of three landmarks one has no position, and of the others only the later one is good.
def mixedLandmarks : List (Operation Float) :=
  twoViews ++
    [.addLandmark ⟨Id.ofNat 12, Id.ofNat 1, none, .unknown, []⟩ (.create (Id.ofNat 12) (Id.ofNat 1) _ rfl),
      .addLandmark ⟨Id.ofNat 13, Id.ofNat 1, none, .unknown, []⟩ (.create (Id.ofNat 13) (Id.ofNat 1) _ rfl),
      .pass (.setPosition (Id.ofNat 13) ⟨1, 0, 2⟩), .pass (.setQuality (Id.ofNat 13) .good)]

theorem mixed_landmarks_cloud :
    ∃ (map : Map Float) (whole good : Cloud Float), Operation.run mixedLandmarks Map.empty = .ok map ∧
      Cloud.withRoom map.landmarks.length = (.ok Cloud.empty : Except (Fault Float) (Cloud Float)) ∧
      map.cloud false = .ok whole ∧ map.cloud true = .ok good ∧ whole.size = 2 ∧ good.size = 1 ∧
      whole.scalars = [Scalar.ofNat 2, Scalar.ofNat 0] ∧ good.KeptFrom whole [false, true] := by
  obtain ⟨whole, good, all, some, channels, others, selected, _⟩ := landmark_cloud_channels mixedLandmarks _ rfl rfl
  exact ⟨_, whole, good, rfl, rfl, all, some, channels.size, others.size, channels.scalars, selected⟩

end LandmarkMap
