import LandmarkMap.Scene.Random
import LandmarkMap.Config
import LandmarkMap.Map.Basic

set_option autoImplicit false

/-!
Synthetic scenes: a rig that moves along the first axis of its mission past random landmarks, with
the true position of each.
-/

namespace LandmarkMap

structure Scene (α : Type) [Scalar α] where
  map : Map α
  truth : List (LandmarkId × Vec3 α)

namespace Scene

variable {α : Type} [Scalar α]

def mountPose (i : Nat) (baseline : α) : Pose α :=
  Pose.inverse ⟨Quaternion.aboutX (-(Scalar.pi / 2.0)), ⟨Scalar.ofNat i * baseline, 0, 0⟩⟩

/-- Equal cameras, numbered by name. A list of them takes two words each, one of their poses seven. -/
def rig (c : SceneConfig α) : Except (Failure α) (Rig α) := do
  (Word.reserve c.cameras 16 : Except (Fault α) Unit)
  (Word.reserve c.cameras 56 : Except (Fault α) Unit)
  let camera ← (Pinhole.ofParameters? c.camera : Except (Error α) _)
  let indices := List.range c.cameras
  let cameras := indices.map fun i => camera.named ("cam" ++ toString i)
  (Rig.ofParts (indices.map fun i => mountPose i c.baseline) cameras : Except (Fault α) _)

def bodyPose (c : SceneConfig α) (i : Nat) : Pose α :=
  Pose.atPosition ⟨Scalar.ofNat i * c.spacing, 0, 0⟩

def vertex (c : SceneConfig α) (mission : MissionId) (i : Nat) : Except (Fault α) (Vertex α) :=
  let time : Timestamp := ⟨Scalar.toInt64 (Scalar.ofNat i * c.period * 1e9)⟩
  let velocity : Vec3 α := ⟨c.spacing / c.period, 0, 0⟩
  let state := { BodyState.atPose (bodyPose c i) with velocity }
  Vertex.create (Id.ofNat i) mission time state c.cameras

def trajectoryLength (c : SceneConfig α) : α := Scalar.ofNat (c.vertices - 1) * c.spacing

def depthRange (c : SceneConfig α) (i : Nat) : α × α :=
  if i < c.landmarks then c.depthRange else c.farDepthRange

structure Draft (α : Type) [Scalar α] where
  map : Map α
  draws : Nat

def Draft.update {β : Type} (d : Draft α) (operation : Update α β) :
    Except (Fault α) (Draft α) :=
  match operation.run.run d.map with
  | (.ok _, map) => .ok { d with map }
  | (.error fault, _) => .error fault

def drawPoint (source : RandomSource α) (draws : Nat) (length : α) (range : α × α) :
    Except (Fault α) (Vec3 α × Nat) := do
  let (near, far) := range
  let (depth, draws) ←
    if near < far then do pure (← source.drawBelow draws near far, draws + 1)
    else pure (near, draws)
  let along ← source.drawUpTo draws 0 length
  let aside ← source.drawBelow (draws + 1) (-0.3) 0.3
  let up ← source.drawBelow (draws + 2) (-0.25) 0.25
  return (⟨along + aside * depth, depth, up * depth⟩, draws + 3)

def drawNoise (source : RandomSource α) (draws : Nat) (stdDev : α) : Vec2 α × Nat :=
  if stdDev == 0 then (Vec2.zero, draws)
  else
    ((⟨source.normal draws, source.normal (draws + 1)⟩ : Vec2 α).scale stdDev, draws + 2)

def observe (c : SceneConfig α) (source : RandomSource α) (id : LandmarkId) (p : Vec3 α)
    (i frame : Nat) (mount : MountedCamera α) (d : Draft α) : Except (Fault α) (Draft α) := do
  let inCamera := (mount.fromBody * (bodyPose c i).inverse).apply p
  let projection ← mount.camera.project inCamera
  if projection.outcome ≠ .visible then return d
  else
    let (noise, draws) := drawNoise source d.draws c.pixelNoise
    let d ← d.update (Map.addObservation id (Id.ofNat i) frame (projection.keypoint + noise))
    return { d with draws }

def addLandmark (c : SceneConfig α) (source : RandomSource α) (mission : MissionId) (rig : Rig α)
    (d : Draft α) (i : Nat) : Except (Fault α) (Draft α × (LandmarkId × Vec3 α)) := do
  let (p, draws) ← drawPoint source d.draws (trajectoryLength c) (depthRange c i)
  let id : LandmarkId := Id.ofNat i
  let landmark ← Landmark.create id mission
  let d ← Draft.update { d with draws } (Map.addLandmark (landmark.place p))
  let views := (List.range c.vertices).flatMap fun v => rig.mounts.zipIdx.map fun m => (v, m)
  let d ← views.foldlM (fun d (v, mount, frame) => observe c source id p v frame mount d) d
  return (d, (id, p))

def addLandmarks (c : SceneConfig α) (source : RandomSource α) (mission : MissionId) (rig : Rig α) :
    (n i : Nat) → Draft α → Except (Fault α) (Draft α × List (LandmarkId × Vec3 α))
  | 0, _, d => .ok (d, [])
  | n + 1, i, d => do
      let (d, first) ← addLandmark c source mission rig d i
      let (d, others) ← addLandmarks c source mission rig n (i + 1) d
      return (d, first :: others)

def landmarkCount (c : SceneConfig α) : Except (Fault α) Nat := do
  let count ← Word.add c.landmarks c.farLandmarks
  Word.reserveTable count
  return count

/-- Adds the vertices of a mission. A list of their poses takes eight words each. -/
def addVertices (c : SceneConfig α) (mission : MissionId) (d : Draft α) :
    Except (Fault α) (Draft α) := do
  Word.reserve c.vertices 64
  (List.range c.vertices).foldlM (fun d i => do d.update (Map.addVertex (← vertex c mission i))) d

def build (c : SceneConfig α) (source : RandomSource α) : Except (Failure α) (Scene α) := do
  (c.validate : Except (Error α) Unit)
  let rig ← rig c
  let id : MissionId := Id.ofNat 0
  let mission ← (Mission.create id Pose.identity rig : Except (Fault α) _)
  let d ← (Draft.update ⟨Map.empty, 0⟩ (Map.addMission mission) : Except (Fault α) _)
  let d ← (addVertices c id d : Except (Fault α) _)
  let count ← (landmarkCount c : Except (Fault α) _)
  let (d, truth) ← (addLandmarks c source id rig count 0 d : Except (Fault α) _)
  return ⟨d.map, truth⟩

end Scene

end LandmarkMap
