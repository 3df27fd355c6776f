import LandmarkMap.Config
import LandmarkMap.Json.Value

set_option autoImplicit false

/-! Settings written as JSON documents, with every section and every field. -/

namespace LandmarkMap

def Distortion.toJson : Distortion Float → Json
  | ⟨.ideal, _⟩ => .object [(some "type", .text (some "None"))]
  | ⟨.radialTangential, ps⟩ =>
      .object
        [(some "type", .text (some "RadTan")), (some "k1", .ofFloat ps[0]),
          (some "k2", .ofFloat ps[1]), (some "p1", .ofFloat ps[2]), (some "p2", .ofFloat ps[3])]
  | ⟨.fieldOfView, ps⟩ =>
      .object
        [(some "type", .text (some "Fisheye")), (some "w", .ofFloat (FieldOfView.angle ps))]

def PinholeParameters.toJson (p : PinholeParameters Float) : Json :=
  .object
    [(some "camera_name", .text (some p.name)), (some "image_width", .ofNat p.width),
      (some "image_height", .ofNat p.height), (some "fx", .ofFloat p.fx),
      (some "fy", .ofFloat p.fy), (some "cx", .ofFloat p.cx), (some "cy", .ofFloat p.cy),
      (some "distortion", p.distortion.toJson)]

def QualityConfig.toJson (c : QualityConfig Float) : Json :=
  .object
    [(some "min_observation_angle_deg", .ofFloat c.minAngleDegrees),
      (some "min_observers", .ofNat c.minObservers),
      (some "max_distance_from_closest_observer", .ofFloat c.maxDistance),
      (some "min_distance_from_closest_observer", .ofFloat c.minDistance)]

def VisualConfig.toJson (c : VisualConfig Float) : Json :=
  .object
    [(some "pixel_sigma", .ofFloat c.pixelSigma), (some "fix_extrinsics", .bool c.fixExtrinsics)]

def ParallelConfig.toJson (c : ParallelConfig) : Json :=
  .object
    [(some "always_parallelize", .bool c.always),
      (some "num_threads", match c.threads with
        | some n => .ofNat n
        | none => .null)]

def CorruptionConfig.toJson (c : CorruptionConfig Float) : Json :=
  .object
    [(some "position_std_dev", .ofFloat c.stdDev), (some "every_nth", .ofNat c.everyNth),
      (some "seed", .ofNat c.seed)]

def SceneConfig.toJson (c : SceneConfig Float) : Json :=
  let range (r : Float × Float) : Json := .array [.ofFloat r.1, .ofFloat r.2]
  .object
    [(some "num_vertices", .ofNat c.vertices), (some "vertex_spacing_m", .ofFloat c.spacing),
      (some "vertex_period_s", .ofFloat c.period), (some "num_landmarks", .ofNat c.landmarks),
      (some "depth_range_m", range c.depthRange), (some "num_far_landmarks", .ofNat c.farLandmarks),
      (some "far_depth_range_m", range c.farDepthRange), (some "num_cameras", .ofNat c.cameras),
      (some "camera_baseline_m", .ofFloat c.baseline), (some "camera", c.camera.toJson),
      (some "pixel_noise_std", .ofFloat c.pixelNoise), (some "seed", .ofNat c.seed)]

def Config.toJson (c : Config Float) : Json :=
  .object
    [(some "landmark_quality", c.quality.toJson), (some "visual_error", c.visual.toJson),
      (some "parallel", c.parallel.toJson), (some "dataset", c.scene.toJson),
      (some "corruption", c.corruption.toJson)]

end LandmarkMap
