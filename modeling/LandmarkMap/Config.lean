import LandmarkMap.Batch
import LandmarkMap.Camera.Pinhole

set_option autoImplicit false

/-!
Settings of the passes over a map and of synthetic scenes, with their defaults and their checks.
-/

namespace LandmarkMap

structure QualityConfig (α : Type) where
  minAngleDegrees : α
  minObservers : Nat
  maxDistance : α
  minDistance : α

structure VisualConfig (α : Type) where
  pixelSigma : α
  fixExtrinsics : Bool

structure CorruptionConfig (α : Type) where
  stdDev : α
  everyNth : Nat
  seed : Nat

structure SceneConfig (α : Type) where
  vertices : Nat
  spacing : α
  /-- Seconds between vertices. -/
  period : α
  landmarks : Nat
  depthRange : α × α
  farLandmarks : Nat
  farDepthRange : α × α
  cameras : Nat
  baseline : α
  camera : PinholeParameters α
  pixelNoise : α
  seed : Nat

structure ParallelConfig where
  always : Bool
  threads : Option Nat

def ParallelConfig.on (c : ParallelConfig) (threads : Nat) : Parallelism := ⟨c.always, c.threads, threads⟩

structure Config (α : Type) where
  quality : QualityConfig α
  visual : VisualConfig α
  parallel : ParallelConfig
  scene : SceneConfig α
  corruption : CorruptionConfig α

variable {α : Type} [Scalar α]

instance : Inhabited (QualityConfig α) := ⟨⟨5.0, 4, 40.0, 0.05⟩⟩

instance : Inhabited (VisualConfig α) := ⟨⟨0.7, true⟩⟩

instance : Inhabited ParallelConfig := ⟨⟨false, none⟩⟩

instance : Inhabited (CorruptionConfig α) := ⟨⟨5.0, 1, 42⟩⟩

instance : Inhabited (SceneConfig α) :=
  ⟨{ vertices := 20, spacing := 0.25, period := 0.1, landmarks := 300, depthRange := (2.0, 12.0),
     farLandmarks := 30, farDepthRange := (60.0, 80.0), cameras := 1, baseline := 0.11,
     camera := default, pixelNoise := 0, seed := 42 }⟩

instance : Inhabited (Config α) := ⟨⟨default, default, default, default, default⟩⟩

def QualityConfig.validate (c : QualityConfig α) : Except (Error α) Unit :=
  if c.minObservers = 0 then .error (.invalidConfig .noObservers)
  else if ¬ 0 ≤ c.minAngleDegrees then .error (.invalidConfig (.negativeAngle c.minAngleDegrees))
  else if ¬ c.minDistance ≤ c.maxDistance then
    .error (.invalidConfig (.emptyDistances c.minDistance c.maxDistance))
  else .ok ()

def SceneConfig.validate (c : SceneConfig α) : Except (Error α) Unit :=
  let isRange (r : α × α) : Bool := decide (0 < r.1) && decide (r.1 ≤ r.2)
  if c.vertices = 0 ∨ c.cameras = 0 then .error (.invalidConfig .emptyScene)
  else if (isRange c.depthRange && isRange c.farDepthRange) = false then
    .error (.invalidConfig .depthRanges)
  else if ¬ 0 ≤ c.pixelNoise ∨ ¬ 0 < c.period then .error (.invalidConfig .noiseOrPeriod)
  else .ok ()

inductive ConfigRefusal (α : Type) where
  | malformed
  | invalid (cause : Error α)
  | pixelSigma

def ConfigRefusal.message (text : α → String) : ConfigRefusal α → String
  | malformed => "malformed configuration"
  | invalid cause => cause.message text
  | pixelSigma => "pixel_sigma must be positive"

def Config.validate (c : Config α) : Except (ConfigRefusal α) Unit :=
  match c.quality.validate with
  | .error cause => .error (.invalid cause)
  | .ok () => if ¬ 0 < c.visual.pixelSigma then .error .pixelSigma else .ok ()

end LandmarkMap
