import LandmarkMap.Proofs.Solver.GoodLandmarks
import LandmarkMap.Proofs.Solver.Requests

set_option autoImplicit false

namespace LandmarkMap

variable {α : Type} [Scalar α]

-- The residuals of all good landmarks, one landmark after the other.
def Map.goodResiduals (map : Map α) (c : VisualConfig α) : Except (Failure α) (List (Option (Vec2 α))) :=
  (map.landmarks.filter fun l => decide (l.quality = .good)).flatMapM fun l => do
    let blocks ← map.residualBlocks c l.id
    blocks.mapM fun b => (b.residual? : Except (Fault α) _)

-- Parameters of the declared sizes have a residual, or it is found that there is none.
theorem sized_residual (b : ResidualBlock α) (sizes : b.parameters.map List.length = b.error.blockSizes) :
    ∃ residual, b.residual? = .ok residual := by
  have fits : b.error.term.Fits (Buffers.plain 2) := ⟨Nat.le_refl 2, fun _ asked => by cases asked⟩
  obtain ⟨⟨accepted, ⟨left, _⟩⟩, done⟩ := b.error.sized_evaluates b.parameters sizes _ fits
  rw [ResidualBlock.residual?, done, ok_bind]
  match accepted, left with
  | true, x :: y :: _ => exact ⟨some ⟨x, y⟩, rfl⟩
  | true, [] => exact ⟨none, rfl⟩
  | true, [_] => exact ⟨none, rfl⟩
  | false, _ => exact ⟨none, rfl⟩

theorem flat_map_stops {ε τ ρ : Type} (f : τ → Except ε (List ρ)) (cause : ε) (items : List τ)
    (each : ∀ item ∈ items, (∃ results, f item = .ok results) ∨ f item = .error cause) :
    (∃ results, items.flatMapM f = .ok results) ∨ items.flatMapM f = .error cause := by
  induction items with
  | nil => exact .inl ⟨[], rfl⟩
  | cons item rest ih =>
      rw [List.flatMapM_cons]
      rcases each item List.mem_cons_self with ⟨first, done⟩ | stopped
      · rw [done, ok_bind]
        rcases ih fun later member => each later (List.mem_cons_of_mem item member) with ⟨others, done'⟩ | stopped'
        · exact .inl ⟨first ++ others, by rw [done']; rfl⟩
        · exact .inr (by rw [stopped']; rfl)
      · exact .inr (by rw [stopped]; rfl)

-- A good landmark has residuals unless the camera that saw it first stands on it, or too far off for the
-- distance to be a number.
theorem good_residuals_stop (map : Map α) (consistent : map.Consistent) (linked : map.Linked) (q : QualityConfig α)
    (judged : ∀ l ∈ map.landmarks, l.quality = .good → evaluateQuality map.toPoseGraph q l = .ok .good)
    (c : VisualConfig α) (positive : 0 < c.pixelSigma) :
    (∃ residuals, map.goodResiduals c = .ok residuals) ∨ map.goodResiduals c = .error (.error .landmarkAtAnchor) := by
  refine flat_map_stops _ _ _ fun l chosen => ?_
  obtain ⟨member, good⟩ := List.mem_filter.mp chosen
  have found := judged l member (of_decide_eq_true good)
  have stored := found_landmark map l consistent member
  obtain ⟨point, first, camera, placed, head, located⟩ := good_anchored map q l found
  by_cases apart : point.ApartFrom camera.position
  · left
    obtain ⟨_, _, pointed⟩ := anchored point camera.position apart
    obtain ⟨blocks, built, each⟩ := resolved_blocks map c l stored point placed first head camera located _ pointed
      positive fun o observed => observation_resolves map consistent linked l member o observed
    rw [built, ok_bind]
    refine faultless_has_value _ fun broken => ?_
    obtain ⟨b, listed, broken⟩ := (map_m_faults _ _).mp broken
    obtain ⟨o, _, found, resolves, rfl⟩ := related_member _ _ _ each b listed
    obtain ⟨residual, left⟩ := sized_residual _ (block_is_of map.toPoseGraph c o found resolves positive _ _).sizes
    rw [left] at broken
    exact ok_never_faults _ broken
  · right
    rw [residual_blocks_refused map c l stored point placed first head camera located (not_anchored point _ apart)]
    rfl

end LandmarkMap
