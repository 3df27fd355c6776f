import LandmarkMap.Config.Decode

set_option autoImplicit false

namespace LandmarkMap

variable {τ : Type} (reader : NumberReader)

-- Nothing, or the value of the only member of that name.
inductive Given (members : List (Option String × Json)) (name : String) : Option Json → Prop
  | absent (missing : ∀ value, (some name, value) ∉ members) : Given members name none
  | once {before after : List (Option String × Json)} {value : Json}
      (place : members = before ++ (some name, value) :: after)
      (only : ∀ other, (some name, other) ∉ before ++ after) : Given members name (some value)

-- An object names its fields, in any order and among other members; an array has the first of them in order.
inductive Record (fields : List (String × Option Json)) : Json → Prop
  | object {members : List (Option String × Json)} (named : ∀ m ∈ members, m.1 ≠ none)
      (given : ∀ f ∈ fields, Given members f.1 f.2) : Record fields (.object members)
  | array {items : List Json} (short : items.length ≤ fields.length)
      (given : ∀ (i : Nat) (bound : i < fields.length), fields[i].2 = items[i]?) : Record fields (.array items)

inductive Required (writes : Json → τ → Prop) : Option Json → τ → Prop
  | given {j : Json} {x : τ} (written : writes j x) : Required writes (some j) x

inductive Field (writes : Json → τ → Prop) (default : τ) : Option Json → τ → Prop
  | given {j : Json} {x : τ} (written : writes j x) : Field writes default (some j) x
  | kept : Field writes default none default

inductive FloatWritten : Json → Float → Prop
  | number {n : Numeral} {x : Float} (read : reader n = some x) : FloatWritten (.number n) x

inductive NaturalWritten (bound : Nat) : Json → Nat → Prop
  | digits {n : Nat} (small : n < bound) : NaturalWritten bound (.number (.integer false n)) n

inductive ThreadsWritten : Json → Option Nat → Prop
  | unset : ThreadsWritten .null none
  | count {j : Json} {n : Nat} (word : NaturalWritten UInt64.size j n) : ThreadsWritten j (some n)

inductive BoolWritten : Json → Bool → Prop
  | value (b : Bool) : BoolWritten (.bool b) b

inductive TextWritten : Json → String → Prop
  | value (t : String) : TextWritten (.text (some t)) t

inductive PairWritten : Json → Float × Float → Prop
  | items {a b : Json} {x y : Float} (first : FloatWritten reader a x) (second : FloatWritten reader b y) :
      PairWritten (.array [a, b]) (x, y)

-- What can be held before it is known for which model: all its texts are texts, its numbers are within the
-- range of the reader, and it nests no deeper than the limit.
inductive Json.Held : Nat → Json → Prop
  | null (depth : Nat) : Held depth .null
  | bool (depth : Nat) (b : Bool) : Held depth (.bool b)
  | number {depth : Nat} {n : Numeral} {x : Float} (read : reader n = some x) : Held depth (.number n)
  | text (depth : Nat) (t : String) : Held depth (.text (some t))
  | array {depth : Nat} {items : List Json} (all : ∀ item ∈ items, Held depth item) :
      Held (depth + 1) (.array items)
  | object {depth : Nat} {members : List (Option String × Json)} (named : ∀ m ∈ members, m.1 ≠ none)
      (all : ∀ m ∈ members, Held depth m.2) : Held (depth + 1) (.object members)

-- An object names the tag and the parameters of a model among other members; an array has the tag, then the
-- parameters and nothing else.
inductive Tagged (tag : String) (parameters : List (String × Json)) : Json → Prop
  | object {members : List (Option String × Json)} (type : Given members "type" (some (.text (some tag))))
      (given : ∀ p ∈ parameters, Given members p.1 (some p.2)) : Tagged tag parameters (.object members)
  | array : Tagged tag parameters (.array (.text (some tag) :: parameters.map (·.2)))

-- The whole of a distortion model is held first, whatever is read from it later.
inductive DistortionWritten (held : Json → Prop) (j : Json) : Distortion Float → Prop
  | ideal (whole : held j) (tagged : Tagged "None" [] j) : DistortionWritten held j .ideal
  | radialTangential {a b c d : Json} {k1 k2 p1 p2 : Float} (whole : held j)
      (tagged : Tagged "RadTan" [("k1", a), ("k2", b), ("p1", c), ("p2", d)] j) (k1Given : FloatWritten reader a k1)
      (k2Given : FloatWritten reader b k2) (p1Given : FloatWritten reader c p1) (p2Given : FloatWritten reader d p2) :
      DistortionWritten held j (.radialTangential k1 k2 p1 p2)
  | fieldOfView {a : Json} {w : Float} (whole : held j) (tagged : Tagged "Fisheye" [("w", a)] j)
      (wGiven : FloatWritten reader a w) : DistortionWritten held j (.fieldOfView w)

inductive CameraWritten (held : Json → Prop) (j : Json) (p : PinholeParameters Float) : Prop
  | fields {name width height fx fy cx cy distortion : Option Json}
      (record : Record [("camera_name", name), ("image_width", width), ("image_height", height), ("fx", fx),
        ("fy", fy), ("cx", cx), ("cy", cy), ("distortion", distortion)] j)
      (nameGiven : Required TextWritten name p.name)
      (widthGiven : Required (NaturalWritten UInt32.size) width p.width)
      (heightGiven : Required (NaturalWritten UInt32.size) height p.height)
      (fxGiven : Required (FloatWritten reader) fx p.fx) (fyGiven : Required (FloatWritten reader) fy p.fy)
      (cxGiven : Required (FloatWritten reader) cx p.cx) (cyGiven : Required (FloatWritten reader) cy p.cy)
      (distortionGiven : Field (DistortionWritten reader held) .ideal distortion p.distortion)

inductive QualityWritten (j : Json) (c : QualityConfig Float) : Prop
  | fields {angle observers farthest nearest : Option Json}
      (record : Record [("min_observation_angle_deg", angle), ("min_observers", observers),
        ("max_distance_from_closest_observer", farthest), ("min_distance_from_closest_observer", nearest)] j)
      (angleGiven : Field (FloatWritten reader) 5.0 angle c.minAngleDegrees)
      (observersGiven : Field (NaturalWritten UInt64.size) 4 observers c.minObservers)
      (farthestGiven : Field (FloatWritten reader) 40.0 farthest c.maxDistance)
      (nearestGiven : Field (FloatWritten reader) 0.05 nearest c.minDistance)

inductive VisualWritten (j : Json) (c : VisualConfig Float) : Prop
  | fields {sigma fix : Option Json} (record : Record [("pixel_sigma", sigma), ("fix_extrinsics", fix)] j)
      (sigmaGiven : Field (FloatWritten reader) 0.7 sigma c.pixelSigma) (fixGiven : Field BoolWritten true fix c.fixExtrinsics)

inductive ParallelWritten (j : Json) (c : ParallelConfig) : Prop
  | fields {always threads : Option Json} (record : Record [("always_parallelize", always), ("num_threads", threads)] j)
      (alwaysGiven : Field BoolWritten false always c.always)
      (threadsGiven : Field ThreadsWritten none threads c.threads)

inductive CorruptionWritten (j : Json) (c : CorruptionConfig Float) : Prop
  | fields {stdDev everyNth seed : Option Json}
      (record : Record [("position_std_dev", stdDev), ("every_nth", everyNth), ("seed", seed)] j)
      (stdDevGiven : Field (FloatWritten reader) 5.0 stdDev c.stdDev)
      (everyNthGiven : Field (NaturalWritten UInt64.size) 1 everyNth c.everyNth)
      (seedGiven : Field (NaturalWritten UInt64.size) 42 seed c.seed)

inductive SceneWritten (held : Json → Prop) (j : Json) (c : SceneConfig Float) : Prop
  | fields {vertices spacing period landmarks depths farLandmarks farDepths cameras baseline camera noise seed :
        Option Json}
      (record : Record [("num_vertices", vertices), ("vertex_spacing_m", spacing), ("vertex_period_s", period),
        ("num_landmarks", landmarks), ("depth_range_m", depths), ("num_far_landmarks", farLandmarks),
        ("far_depth_range_m", farDepths), ("num_cameras", cameras), ("camera_baseline_m", baseline),
        ("camera", camera), ("pixel_noise_std", noise), ("seed", seed)] j)
      (verticesGiven : Field (NaturalWritten UInt64.size) 20 vertices c.vertices)
      (spacingGiven : Field (FloatWritten reader) 0.25 spacing c.spacing)
      (periodGiven : Field (FloatWritten reader) 0.1 period c.period)
      (landmarksGiven : Field (NaturalWritten UInt64.size) 300 landmarks c.landmarks)
      (depthsGiven : Field (PairWritten reader) (2.0, 12.0) depths c.depthRange)
      (farLandmarksGiven : Field (NaturalWritten UInt64.size) 30 farLandmarks c.farLandmarks)
      (farDepthsGiven : Field (PairWritten reader) (60.0, 80.0) farDepths c.farDepthRange)
      (camerasGiven : Field (NaturalWritten UInt64.size) 1 cameras c.cameras)
      (baselineGiven : Field (FloatWritten reader) 0.11 baseline c.baseline)
      (cameraGiven : Field (CameraWritten reader held) default camera c.camera)
      (noiseGiven : Field (FloatWritten reader) 0.0 noise c.pixelNoise)
      (seedGiven : Field (NaturalWritten UInt64.size) 42 seed c.seed)

inductive SettingsWritten (held : Json → Prop) (j : Json) (c : Config Float) : Prop
  | fields {quality visual parallel scene corruption : Option Json}
      (record : Record [("landmark_quality", quality), ("visual_error", visual), ("parallel", parallel),
        ("dataset", scene), ("corruption", corruption)] j)
      (qualityGiven : Field (QualityWritten reader) default quality c.quality)
      (visualGiven : Field (VisualWritten reader) default visual c.visual)
      (parallelGiven : Field ParallelWritten default parallel c.parallel)
      (sceneGiven : Field (SceneWritten reader held) default scene c.scene)
      (corruptionGiven : Field (CorruptionWritten reader) default corruption c.corruption)

end LandmarkMap
