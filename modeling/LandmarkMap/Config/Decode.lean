import LandmarkMap.Config
import LandmarkMap.Json.Parser

set_option autoImplicit false

/-!
Settings read from JSON documents. A record is an object, whose unknown members are ignored and
whose known ones occur at most once, or an array of its first fields in order. A field that is not
given keeps its default, where it has one.
-/

namespace LandmarkMap

namespace Decode

variable (reader : NumberReader)

def float : Json → Option Float
  | .number n => reader n
  | _ => none

def natural (bound : Nat) : Json → Option Nat
  | .number n => n.natural? bound
  | _ => none

def word (j : Json) : Option Nat := natural UInt64.size j

def word? : Json → Option (Option Nat)
  | .null => some none
  | j => (word j).map some

def bool : Json → Option Bool
  | .bool b => some b
  | _ => none

def text : Json → Option String
  | .text t => t
  | _ => none

def floatPair : Json → Option (Float × Float)
  | .array [a, b] => do return (← float reader a, ← float reader b)
  | _ => none

/-- The value of a known member: nothing if it is not given, a failure if it is given twice. -/
def member (members : List (Option String × Json)) (name : String) : Option (Option Json) :=
  match members.filter fun m => m.1 = some name with
  | [] => some none
  | [(_, value)] => some (some value)
  | _ => none

def fields (names : List String) : Json → Option (List (Option Json))
  | .object members =>
      if members.all (·.1.isSome) then names.mapM (member members) else none
  | .array items =>
      if items.length ≤ names.length then
        some (items.map some ++ List.replicate (names.length - items.length) none)
      else none
  | _ => none

def required {τ : Type} (decode : Json → Option τ) : Option Json → Option τ
  | some j => decode j
  | none => none

def optional {τ : Type} (decode : Json → Option τ) (default : τ) : Option Json → Option τ
  | some j => decode j
  | none => some default

def distortionFields (names : List String) : Json → Option (List Float)
  | .object members => names.mapM fun name => do required (float reader) (← member members name)
  | .array items => if items.length = names.length then items.mapM (float reader) else none
  | _ => none

def distortionOf (tag : String) (body : Json) : Option (Distortion Float) :=
  match tag with
  | "None" =>
      match body with
      | .array (_ :: _) => none
      | _ => some .ideal
  | "RadTan" => do
      match ← distortionFields reader ["k1", "k2", "p1", "p2"] body with
      | [k1, k2, p1, p2] => some (.radialTangential k1 k2 p1 p2)
      | _ => none
  | "Fisheye" => do
      match ← distortionFields reader ["w"] body with
      | [w] => some (.fieldOfView w)
      | _ => none
  | _ => none

def nestingLimit : Nat := 124

/-- A distortion model, tagged by its member `type` or by its first item. -/
def distortion (j : Json) : Option (Distortion Float) := do
  if j.isHeld reader nestingLimit then
    match j with
    | .object members =>
        let tag ← required text (← member members "type")
        distortionOf reader tag (.object (members.filter fun m => m.1 ≠ some "type"))
    | .array (tag :: rest) => distortionOf reader (← text tag) (.array rest)
    | _ => none
  else none

def pinhole (j : Json) : Option (PinholeParameters Float) := do
  match ← fields ["camera_name", "image_width", "image_height", "fx", "fy", "cx", "cy",
      "distortion"] j with
  | [name, width, height, fx, fy, cx, cy, model] =>
      return { name := ← required text name
               width := ← required (natural UInt32.size) width
               height := ← required (natural UInt32.size) height
               fx := ← required (float reader) fx
               fy := ← required (float reader) fy
               cx := ← required (float reader) cx
               cy := ← required (float reader) cy
               distortion := ← optional (distortion reader) .ideal model }
  | _ => none

def quality (j : Json) : Option (QualityConfig Float) := do
  let base : QualityConfig Float := default
  match ← fields ["min_observation_angle_deg", "min_observers",
      "max_distance_from_closest_observer", "min_distance_from_closest_observer"] j with
  | [angle, observers, farthest, nearest] =>
      return { minAngleDegrees := ← optional (float reader) base.minAngleDegrees angle
               minObservers := ← optional word base.minObservers observers
               maxDistance := ← optional (float reader) base.maxDistance farthest
               minDistance := ← optional (float reader) base.minDistance nearest }
  | _ => none

def visual (j : Json) : Option (VisualConfig Float) := do
  let base : VisualConfig Float := default
  match ← fields ["pixel_sigma", "fix_extrinsics"] j with
  | [sigma, fix] =>
      return { pixelSigma := ← optional (float reader) base.pixelSigma sigma
               fixExtrinsics := ← optional bool base.fixExtrinsics fix }
  | _ => none

def parallel (j : Json) : Option ParallelConfig := do
  let base : ParallelConfig := default
  match ← fields ["always_parallelize", "num_threads"] j with
  | [always, threads] =>
      return { always := ← optional bool base.always always
               threads := ← optional word? base.threads threads }
  | _ => none

def corruption (j : Json) : Option (CorruptionConfig Float) := do
  let base : CorruptionConfig Float := default
  match ← fields ["position_std_dev", "every_nth", "seed"] j with
  | [stdDev, everyNth, seed] =>
      return { stdDev := ← optional (float reader) base.stdDev stdDev
               everyNth := ← optional word base.everyNth everyNth
               seed := ← optional word base.seed seed }
  | _ => none

def scene (j : Json) : Option (SceneConfig Float) := do
  let base : SceneConfig Float := default
  match ← fields ["num_vertices", "vertex_spacing_m", "vertex_period_s", "num_landmarks",
      "depth_range_m", "num_far_landmarks", "far_depth_range_m", "num_cameras",
      "camera_baseline_m", "camera", "pixel_noise_std", "seed"] j with
  | [vertices, spacing, period, landmarks, depths, farLandmarks, farDepths, cameras, baseline,
      camera, noise, seed] =>
      return { vertices := ← optional word base.vertices vertices
               spacing := ← optional (float reader) base.spacing spacing
               period := ← optional (float reader) base.period period
               landmarks := ← optional word base.landmarks landmarks
               depthRange := ← optional (floatPair reader) base.depthRange depths
               farLandmarks := ← optional word base.farLandmarks farLandmarks
               farDepthRange := ← optional (floatPair reader) base.farDepthRange farDepths
               cameras := ← optional word base.cameras cameras
               baseline := ← optional (float reader) base.baseline baseline
               camera := ← optional (pinhole reader) base.camera camera
               pixelNoise := ← optional (float reader) base.pixelNoise noise
               seed := ← optional word base.seed seed }
  | _ => none

def config (j : Json) : Option (Config Float) := do
  let base : Config Float := default
  match ← fields ["landmark_quality", "visual_error", "parallel", "dataset", "corruption"] j with
  | [qualityPart, visualPart, parallelPart, scenePart, corruptionPart] =>
      return { quality := ← optional (quality reader) base.quality qualityPart
               visual := ← optional (visual reader) base.visual visualPart
               parallel := ← optional parallel base.parallel parallelPart
               scene := ← optional (scene reader) base.scene scenePart
               corruption := ← optional (corruption reader) base.corruption corruptionPart }
  | _ => none

end Decode

def Config.ofText (reader : NumberReader) (source : String) : Except (ConfigRefusal Float) (Config Float) :=
  match (Json.parse source).bind (Decode.config reader) with
  | none => .error .malformed
  | some c =>
      match c.validate with
      | .error refusal => .error refusal
      | .ok () => .ok c

inductive ConfigFileRefusal where
  | unreadable
  | refused (cause : ConfigRefusal Float)

def ConfigFileRefusal.context (path : String) : ConfigFileRefusal → String
  | unreadable => "failed to read config " ++ path
  | refused _ => "invalid config " ++ path

def Config.ofFile (reader : NumberReader) (contents : Option String) :
    Except ConfigFileRefusal (Config Float) :=
  match contents with
  | none => .error .unreadable
  | some source => (Config.ofText reader source).mapError .refused

end LandmarkMap
