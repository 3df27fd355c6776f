import LandmarkMap.Pipeline
import LandmarkMap.Proofs.Cloud
import LandmarkMap.Proofs.Map.PassAlgebra
import LandmarkMap.Proofs.Solver.GoodResiduals
import LandmarkMap.Proofs.Scene.Provenance
import LandmarkMap.Proofs.Scene.WellFormed
import LandmarkMap.Proofs.Triangulation.LeastSquares

set_option autoImplicit false

namespace LandmarkMap

variable {α : Type} [Scalar α] [Spectral α]

-- A map of triangulated landmarks that operations led to, with its missions.
structure Map.Ready (ids : List MissionId) (map : Map α) : Prop where
  reached : map.Reached
  missions : map.missionIds = ids
  placed : ∀ l ∈ map.landmarks, l.isTriangulated = true

omit [Spectral α] in
-- A pass may move a landmark; it never takes its position away.
theorem changed_triangulated (pass : Pass α) (g : PoseGraph α) (l m : Landmark α) (change : pass.Changes g l m)
    (placed : l.isTriangulated = true) : m.isTriangulated = true := by
  cases change with
  | same => exact placed
  | moved position => rfl
  | cleared => exact placed
  | judged config verdict asked found => exact placed
  | given quality asked => exact placed

theorem pass_keeps_ready (pass : Pass α) (ids : List MissionId) (before after : Map α) (ready : before.Ready ids)
    (done : pass.apply before = .ok after) : after.Ready ids := by
  obtain ⟨graph, _, each⟩ := pass_effect pass before after done
  refine ⟨operation_reaches (.pass pass) trivial before after ready.reached done, ?_, fun m member => ?_⟩
  · rw [graph]
    exact ready.missions
  · obtain ⟨l, old, change⟩ := related_member _ _ _ each m member
    exact changed_triangulated pass before.toPoseGraph l m change (ready.placed l old)

theorem built_ready (c : SceneConfig α) (source : RandomSource α) (scene : Scene α)
    (built : Scene.build c source = .ok scene) : scene.map.Ready scene.map.missionIds := by
  refine ⟨Scene.built_reached c source scene built, rfl, fun l member => ?_⟩
  obtain ⟨_, rig, _, rigged, buildable, done⟩ := Scene.built_parts c source scene built
  obtain ⟨_, ps, furnished, _, _, _, populated⟩ := Scene.furnished c source rig rigged buildable
  cases done.symm.trans furnished
  obtain ⟨i, there⟩ := List.mem_iff_getElem?.mp member
  obtain ⟨p, _, settled⟩ := Scene.landmark_settled c source rig ps scene.map populated i l there
  rw [Landmark.isTriangulated, settled.position]
  rfl

-- The number of threads is no part of what a pass answers.
section Threads

variable (map : Map α) (p q : Parallelism) (ids : List MissionId)

omit [Spectral α] in
theorem reset_threads : map.resetQuality p ids = map.resetQuality q ids := by
  simp only [Map.resetQuality, Map.changeSelected, map_batches_pointwise]

theorem retriangulate_threads : map.retriangulateMissions p ids = map.retriangulateMissions q ids := by
  simp only [Map.retriangulateMissions, Map.retriangulateSelected, map_batches_pointwise]

omit [Spectral α] in
theorem evaluate_threads (c : QualityConfig α) : map.evaluateMissions c p ids = map.evaluateMissions c q ids := by
  simp only [Map.evaluateMissions, Map.changeSelected, map_batches_pointwise]

end Threads

-- What becomes of a map on its way through the pipeline.
structure Stages (α : Type) [Scalar α] where
  disturbed : Map α
  corrupted : Nat
  cleared : Map α
  moved : Map α
  triangulation : TriangulationSummary
  judged : Map α
  quality : QualitySummary
  cloud : Cloud α

structure Stages.Follow (s : Stages α) (c : Config α) (noise : RandomSource α) (map : Map α) : Prop where
  disturb : map.corrupt noise c.corruption.stdDev (max 1 c.corruption.everyNth) = .ok (s.disturbed, s.corrupted)
  clear : ∀ p, s.disturbed.resetQuality p map.missionIds = .ok s.cleared
  move : ∀ p, s.cleared.retriangulateMissions p map.missionIds = .ok (s.moved, s.triangulation)
  judge : ∀ p, s.moved.evaluateMissions c.quality p map.missionIds = .ok (s.judged, s.quality)
  collect : s.judged.cloud true = .ok s.cloud

-- The labels, their counts and the cloud agree, and nothing is left open.
structure Stages.Complete (s : Stages α) (map : Map α) : Prop where
  alike : LandmarksRelated Landmark.Alike map s.judged
  labelled : ∀ l ∈ s.judged.landmarks, l.isTriangulated = true ∧ (l.quality = .good ∨ l.quality = .bad)
  unknown : s.quality.unknown = 0
  total : s.quality.good + s.quality.bad = s.judged.landmarks.length
  consistent : s.cloud.isConsistent = true
  size : s.cloud.size = s.quality.good

section Ready

variable (ids : List MissionId) (map : Map α) (ready : map.Ready ids)

include ready

theorem ready_present : ¬ ∃ id ∈ ids, map.missions.contains id = false := by
  rintro ⟨id, listed, absent⟩
  rw [← ready.missions] at listed
  cases absent.symm.trans ((mem_keys _ _).mp (List.mem_mergeSort.mp listed))

theorem ready_home (l : Landmark α) (member : l ∈ map.landmarks) : l.mission ∈ ids := by
  rw [← ready.missions]
  exact mission_listed map.toPoseGraph l.mission ((reached_linked map ready.reached).1.homes l member)

theorem ready_disturbed (noise : RandomSource α) (stdDev : α) (stride : Nat) (positive : 0 < stride) :
    ∃ after count, map.corrupt noise stdDev stride = .ok (after, count) ∧ after.Ready ids := by
  let outcome := corruptFrom noise stdDev stride 0 0 map.landmarks
  have done : map.corrupt noise stdDev stride = .ok ({ map with landmarks := outcome.1 }, outcome.2) :=
    require_bind _ _ _ positive
  refine ⟨_, _, done, ?_⟩
  exact pass_keeps_ready (.corrupt noise stdDev stride) ids map _ ready ((map_ok _ _ _).mpr ⟨_, done, rfl⟩)

theorem ready_cleared : ∃ after, (∀ p, map.resetQuality p ids = .ok after) ∧ after.Ready ids := by
  have safe : ¬ Faults (map.resetQuality Parallelism.single ids) := by
    rw [Map.resetQuality, bind_faults, require_missions_faults, change_selected_faults]
    rintro (absent | ⟨_, _, _, _, _, broken⟩)
    · exact ready_present ids map ready absent
    · exact ok_never_faults _ broken
  obtain ⟨after, done⟩ := faultless_has_value _ safe
  refine ⟨after, fun p => (reset_threads map p _ ids).trans done, ?_⟩
  exact pass_keeps_ready (.resetQuality _ ids) ids map after ready done

theorem ready_moved :
    ∃ after summary, (∀ p, map.retriangulateMissions p ids = .ok (after, summary)) ∧ after.Ready ids := by
  obtain ⟨consistent, linked⟩ := reached_linked map ready.reached
  have safe : ¬ Faults (map.retriangulateMissions Parallelism.single ids) := by
    rw [retriangulate_missions_faults map consistent linked]
    exact ready_present ids map ready
  obtain ⟨⟨after, summary⟩, done⟩ := faultless_has_value _ safe
  refine ⟨after, summary, fun p => (retriangulate_threads map p _ ids).trans done, ?_⟩
  exact pass_keeps_ready (.retriangulateMissions _ ids) ids map after ready ((map_ok _ _ _).mpr ⟨_, done, rfl⟩)

theorem ready_judged (c : QualityConfig α) :
    ∃ after summary, (∀ p, map.evaluateMissions c p ids = .ok (after, summary)) ∧ after.Ready ids := by
  obtain ⟨consistent, linked⟩ := reached_linked map ready.reached
  have safe : ¬ Faults (map.evaluateMissions c Parallelism.single ids) := by
    rw [evaluate_missions_faults map consistent linked]
    rintro (absent | ⟨l, member, _, untriangulated⟩)
    · exact ready_present ids map ready absent
    · cases untriangulated.symm.trans (ready.placed l member)
  obtain ⟨⟨after, summary⟩, done⟩ := faultless_has_value _ safe
  refine ⟨after, summary, fun p => (evaluate_threads map p _ ids c).trans done, ?_⟩
  exact pass_keeps_ready (.evaluateMissions c _ ids) ids map after ready ((map_ok _ _ _).mpr ⟨_, done, rfl⟩)

theorem ready_collected (onlyGood : Bool) : ∃ cloud, map.cloud onlyGood = .ok cloud :=
  faultless_has_value _ (cloud_never_faults map (reached_linked map ready.reached).1 onlyGood)

end Ready

theorem stages_defined (c : Config α) (noise : RandomSource α) (map : Map α) (ready : map.Ready map.missionIds) :
    ∃ s : Stages α, s.Follow c noise map ∧ s.moved.Ready map.missionIds ∧ s.judged.Ready map.missionIds := by
  obtain ⟨disturbed, corrupted, disturb, afterwards⟩ :=
    ready_disturbed _ map ready noise c.corruption.stdDev (max 1 c.corruption.everyNth) (Nat.le_max_left 1 _)
  obtain ⟨cleared, clear, afterwards⟩ := ready_cleared _ disturbed afterwards
  obtain ⟨moved, triangulation, move, before⟩ := ready_moved _ cleared afterwards
  obtain ⟨judged, quality, judge, afterwards⟩ := ready_judged _ moved before c.quality
  obtain ⟨cloud, collect⟩ := ready_collected _ judged afterwards true
  exact ⟨⟨disturbed, corrupted, cleared, moved, triangulation, judged, quality, cloud⟩,
    ⟨disturb, clear, move, judge, collect⟩, before, afterwards⟩

section Followed

variable (s : Stages α) (c : Config α) (noise : RandomSource α) (map : Map α) (follow : s.Follow c noise map)

include follow

theorem followed_alike : LandmarksRelated Landmark.Alike map s.judged := by
  have disturb : (Pass.corrupt noise c.corruption.stdDev (max 1 c.corruption.everyNth)).apply map = .ok s.disturbed :=
    (map_ok _ _ _).mpr ⟨_, follow.disturb, rfl⟩
  have clear : (Pass.resetQuality Parallelism.single map.missionIds).apply s.disturbed = .ok s.cleared := follow.clear Parallelism.single
  have move : (Pass.retriangulateMissions Parallelism.single map.missionIds).apply s.cleared = .ok s.moved :=
    (map_ok _ _ _).mpr ⟨_, follow.move Parallelism.single, rfl⟩
  have judge : (Pass.evaluateMissions c.quality Parallelism.single map.missionIds).apply s.moved = .ok s.judged :=
    (map_ok _ _ _).mpr ⟨_, follow.judge Parallelism.single, rfl⟩
  refine run_alike
    [.corrupt noise c.corruption.stdDev (max 1 c.corruption.everyNth), .resetQuality Parallelism.single map.missionIds,
      .retriangulateMissions Parallelism.single map.missionIds, .evaluateMissions c.quality Parallelism.single map.missionIds]
    map s.judged ?_
  rw [Pass.run, List.foldlM_cons, disturb, ok_bind, List.foldlM_cons, clear, ok_bind, List.foldlM_cons, move, ok_bind,
    List.foldlM_cons, judge]
  rfl

theorem followed_complete (before : s.moved.Ready map.missionIds) (afterwards : s.judged.Ready map.missionIds) :
    s.Complete map := by
  have evaluated := evaluated_map s.moved s.judged c.quality Parallelism.single map.missionIds s.quality (follow.judge Parallelism.single)
  have home := ready_home _ s.judged afterwards
  have shows := cloud_shows s.judged true s.cloud follow.collect
  have shown : (s.judged.shown true).length = labelCount map.missionIds .good s.judged.landmarks := by
    rw [Map.shown, ← List.countP_eq_length_filter, labelCount]
    refine List.countP_congr fun l member => ?_
    simp [afterwards.placed l member, home l member]
  refine ⟨followed_alike s c noise map follow, fun m member => ⟨afterwards.placed m member, ?_⟩, evaluated.unknown, ?_,
    shows_consistent s.cloud s.judged _ shows, ?_⟩
  · obtain ⟨l, old, judged⟩ := related_member _ _ _ evaluated.landmarks m member
    rw [Landmark.JudgedIn, if_pos (ready_home _ s.moved before l old)] at judged
    obtain ⟨verdict, _, known, rfl⟩ := judged
    cases verdict with
    | unknown => exact absurd rfl known
    | good => exact .inl rfl
    | bad => exact .inr rfl
  · rw [evaluated.total, ← evaluated.landmarks.length_eq]
    exact List.countP_eq_length.mpr fun l old => decide_eq_true (ready_home _ s.moved before l old)
  · rw [(shows_size s.cloud s.judged _ shows).2, shown, evaluated.good]

end Followed

def Stages.report (s : Stages α) (truth : List (LandmarkId × Vec3 α)) (residuals : List (Option (Vec2 α))) :
    PipelineReport α :=
  ⟨s.judged, truth, s.corrupted, s.triangulation, s.quality, residuals, s.cloud⟩

theorem followed_run (s : Stages α) (c : Config α) (threads : Nat) (random : Nat → RandomSource α) (scene : Scene α)
    (follow : s.Follow c (random c.corruption.seed) scene.map) :
    runPipeline c threads random scene = s.report scene.truth <$> s.judged.goodResiduals c.visual := by
  have disturb := (lifted_fault_ok _ _).mpr follow.disturb
  have clear := (lifted_fault_ok _ _).mpr (follow.clear (c.parallel.on threads))
  have move := (lifted_fault_ok _ _).mpr (follow.move (c.parallel.on threads))
  have judge := (lifted_fault_ok _ _).mpr (follow.judge (c.parallel.on threads))
  have collect := (lifted_fault_ok _ _).mpr follow.collect
  simp only [runPipeline, disturb, clear, move, judge, collect, ok_bind, map_eq_pure_bind]
  rfl

-- Nothing is asked of a configuration but that its scene can be built: no other setting, no noise and no
-- number of threads stops a pass. Only the residuals of good landmarks are still to be had.
theorem pipeline_completes (c : Config α) (source : RandomSource α) (random : Nat → RandomSource α) (scene : Scene α)
    (built : Scene.build c.scene source = .ok scene) :
    ∃ s : Stages α, s.Follow c (random c.corruption.seed) scene.map ∧ s.Complete scene.map ∧
      ∀ threads, runPipeline c threads random scene = s.report scene.truth <$> s.judged.goodResiduals c.visual := by
  obtain ⟨s, follow, before, afterwards⟩ :=
    stages_defined c (random c.corruption.seed) scene.map (built_ready c.scene source scene built)
  exact ⟨s, follow, followed_complete s c _ scene.map follow before afterwards,
    fun threads => followed_run s c threads random scene follow⟩

-- The three vertices on a line, with 330 landmarks drawn as near as they may be.
theorem forward_track_completes :
    ∃ (_ : Spectral ℝ) (scene : Scene ℝ) (s : Stages ℝ),
      Scene.build (Scene.steppedTrack 1) Scene.lowestDraws = .ok scene ∧
        s.Follow ⟨default, default, ⟨true, some 4⟩, Scene.steppedTrack 1, default⟩ Scene.lowestDraws scene.map ∧
        s.Complete scene.map := by
  let _ : Spectral ℝ := eigenSpectral
  obtain ⟨scene, built⟩ := Scene.forward_track_built Scene.lowestDraws
  obtain ⟨s, follow, complete, _⟩ :=
    pipeline_completes ⟨default, default, ⟨true, some 4⟩, Scene.steppedTrack 1, default⟩ Scene.lowestDraws
      (fun _ => Scene.lowestDraws) scene built
  exact ⟨eigenSpectral, scene, s, built, follow, complete⟩

omit [Spectral α] in
theorem validated_sigma (c : Config α) (accepted : c.validate = .ok ()) : 0 < c.visual.pixelSigma := by
  rw [Config.validate] at accepted
  cases judged : c.quality.validate with
  | error cause =>
      rw [judged] at accepted
      cases accepted
  | ok _ =>
      rw [judged] at accepted
      by_contra unfit
      simp only [if_pos unfit] at accepted
      cases accepted

-- With checked settings the residuals do not fault either: what remains to stop the pipeline is a good
-- landmark that cannot be anchored in the camera that saw it first, and that is an error and no fault.
theorem pipeline_never_faults (c : Config α) (accepted : c.validate = .ok ()) (threads : Nat) (source : RandomSource α)
    (random : Nat → RandomSource α) (scene : Scene α) (built : Scene.build c.scene source = .ok scene) :
    (∃ report, runPipeline c threads random scene = .ok report) ∨
      runPipeline c threads random scene = .error (.error .landmarkAtAnchor) := by
  obtain ⟨s, follow, before, afterwards⟩ :=
    stages_defined c (random c.corruption.seed) scene.map (built_ready c.scene source scene built)
  obtain ⟨consistent, linked⟩ := reached_linked s.judged afterwards.reached
  have evaluated : s.moved.evaluateAll c.quality Parallelism.single = .ok (s.judged, s.quality) := by
    rw [Map.evaluateAll, before.missions]
    exact follow.judge Parallelism.single
  have judged := good_judged s.moved s.judged (reached_linked s.moved before.reached).1 c.quality Parallelism.single
    s.quality evaluated
  rw [followed_run s c threads random scene follow]
  rcases good_residuals_stop s.judged consistent linked c.quality judged c.visual (validated_sigma c accepted) with
    ⟨residuals, done⟩ | stopped
  · left
    rw [done]
    exact ⟨_, rfl⟩
  · right
    rw [stopped]
    rfl

end LandmarkMap
