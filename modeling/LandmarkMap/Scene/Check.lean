import LandmarkMap.Scene.Synthetic

set_option autoImplicit false

/-! Checks that a scene is what its configuration asks for. -/

namespace LandmarkMap.Scene

variable {α : Type} [Scalar α]

def numbered (s : Scene α) : List ((LandmarkId × Vec3 α) × Nat) := s.truth.zipIdx

def depthsInRange (s : Scene α) (c : SceneConfig α) : Bool :=
  s.numbered.all fun ((_, p), i) =>
    decide ((depthRange c i).1 ≤ p.y) && decide (p.y ≤ (depthRange c i).2)

def alongTrajectory (s : Scene α) (c : SceneConfig α) : Bool :=
  s.truth.all fun (_, p) =>
    decide (-0.3 * p.y ≤ p.x) && decide (p.x ≤ trajectoryLength c + 0.3 * p.y)

def heightsInRange (s : Scene α) : Bool :=
  s.truth.all fun (_, p) => decide (Scalar.abs p.z ≤ 0.25 * p.y)

def truthIsPosition (s : Scene α) : Bool :=
  s.map.landmarks.length == s.truth.length &&
    (s.map.landmarks.zip s.truth).all fun (l, id, p) =>
      decide (l.id = id) && match l.position with
        | some q => q.toList == p.toList
        | none => false

def reproject (s : Scene α) (p : Vec3 α) (o : Observation) :
    Except (Fault α) (ProjectionOutcome × Vec2 α × Vec2 α) := do
  let vertex ← s.map.vertex o.vertex
  let mission ← s.map.mission vertex.mission
  let mount ← mission.rig.mount o.frame
  let keypoint ← fetch (← vertex.frame o.frame).keypoints o.keypoint
  let projection ← mount.camera.project ((mount.fromBody * vertex.state.pose.inverse).apply p)
  return (projection.outcome, projection.keypoint, keypoint)

def reprojections (s : Scene α) : List (Except (Fault α) (ProjectionOutcome × Vec2 α × Vec2 α)) :=
  (s.map.landmarks.zip s.truth).flatMap fun (l, _, p) => l.observations.map (s.reproject p)

def observedPointsVisible (s : Scene α) : Bool :=
  s.reprojections.all fun
    | .ok (outcome, _, _) => decide (outcome = .visible)
    | .error _ => false

def keypointsExact (s : Scene α) : Bool :=
  s.reprojections.all fun
    | .ok (_, expected, stored) => decide ((stored - expected).norm < 1e-6)
    | .error _ => false

def sameAs (s other : Scene α) : Bool :=
  let facts (s : Scene α) : List (LandmarkId × List α × List Observation) :=
    s.map.landmarks.map fun l => (l.id, (l.position.map (·.toList)).getD [], l.observations)
  (facts s).length == (facts other).length &&
    ((facts s).zip (facts other)).all fun ((id, p, seen), (id', p', seen')) =>
      decide (id = id') && p == p' && decide (seen = seen')

end LandmarkMap.Scene
