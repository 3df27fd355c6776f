import LandmarkMap.Proofs.Exact.Reals
import LandmarkMap.Quality.Metrics

set_option autoImplicit false

namespace LandmarkMap

-- What the search for the closest observer asks of comparisons, and only of lengths that leave a ray a
-- direction. Rounded numbers keep it as the reals do, with those that are infinite or no numbers among them.
class DistanceOrder (α : Type) [Scalar α] : Prop where
  irrefl : ∀ a : α, ¬ a < a
  trans : ∀ a b c : α, a < b → b < c → a < c
  farther : ∀ a b c : α, ObserverRay.minLength < c → a < b → ¬ c < b → a < c
  infinite : ∀ a b : α, ObserverRay.minLength < b → Scalar.isFinite a = true → Scalar.isFinite b = false → a < b
  behind : ∀ a b : α, ObserverRay.minLength < a → 0 ≤ b → ¬ b ≤ -a

theorem min_length_positive : 0 < (ObserverRay.minLength : ℝ) := by
  norm_num [ObserverRay.minLength]

instance distance_real : DistanceOrder ℝ where
  irrefl := lt_irrefl
  trans _ _ _ := lt_trans
  farther _ _ _ _ less above := lt_of_lt_of_le less (not_lt.mp above)
  infinite _ _ _ _ far := by cases far
  behind a b long above := not_le.mpr (lt_of_lt_of_le (neg_neg_of_pos (min_length_positive.trans long)) above)

namespace ObserverRay

variable {α : Type} [Scalar α] (rays : List (ObserverRay α)) (r : ObserverRay α)

-- No ray is shorter; several can be as short.
structure IsShortest : Prop where
  member : r ∈ rays
  least : ∀ s ∈ rays, ¬ s.length < r.length

-- The first of the shortest rays.
def LeadsShortest : Prop :=
  ∃ earlier later, rays = earlier ++ r :: later ∧ (∀ s ∈ earlier, r.length < s.length) ∧
    ∀ s ∈ later, ¬ s.length < r.length

theorem closest_append : closest? (rays ++ [r]) = closer (closest? rays) r := by
  rw [closest?, List.foldl_append]
  rfl

variable [DistanceOrder α]

theorem leading_shortest (leads : LeadsShortest rays r) : IsShortest rays r := by
  obtain ⟨earlier, later, rfl, farther, least⟩ := leads
  refine ⟨by simp, fun s member shorter => ?_⟩
  rcases List.mem_append.mp member with before | after
  · exact DistanceOrder.irrefl _ (DistanceOrder.trans _ _ _ shorter (farther s before))
  · rcases List.mem_cons.mp after with rfl | after
    · exact DistanceOrder.irrefl _ shorter
    · exact least s after shorter

-- A ray that is not shorter than the best so far leaves it the best, and one that is shorter leads all.
theorem leads_next (best : ObserverRay α) (usable : ∀ s ∈ rays, s.isUsable = true) (leads : LeadsShortest rays best) :
    ∃ next, closer (some best) r = some next ∧ LeadsShortest (rays ++ [r]) next := by
  obtain ⟨earlier, later, rfl, farther, least⟩ := leads
  by_cases shorter : r.length < best.length
  · refine ⟨r, if_pos shorter, earlier ++ best :: later, [], rfl, fun s member => ?_, fun s absent => by cases absent⟩
    rcases List.mem_append.mp member with before | after
    · exact DistanceOrder.trans _ _ _ shorter (farther s before)
    · rcases List.mem_cons.mp after with rfl | after
      · exact shorter
      · exact DistanceOrder.farther _ _ _ (of_decide_eq_true (usable s (by simp [after]))) shorter (least s after)
  · refine ⟨best, if_neg shorter, earlier, later ++ [r], by simp, farther, fun s member => ?_⟩
    rcases List.mem_append.mp member with after | last
    · exact least s after
    · cases List.mem_singleton.mp last
      exact shorter

-- The search misses a ray only where none has a finite length.
theorem closest_outcome (usable : ∀ s ∈ rays, s.isUsable = true) :
    (closest? rays = none ∧ ∀ s ∈ rays, Scalar.isFinite s.length = false) ∨
      ∃ best, closest? rays = some best ∧ LeadsShortest rays best := by
  induction rays using List.reverseRecOn with
  | nil => exact .inl ⟨rfl, fun s absent => by cases absent⟩
  | append_singleton rays r ih =>
      rw [closest_append]
      have known : ∀ s ∈ rays, s.isUsable = true := fun s member => usable s (List.mem_append_left [r] member)
      have long : minLength < r.length := of_decide_eq_true (usable r (by simp))
      rcases ih known with ⟨nothing, infinite⟩ | ⟨best, found, leads⟩
      · rw [nothing]
        cases finite : Scalar.isFinite r.length with
        | true =>
            refine .inr ⟨r, by rw [closer, if_pos finite], rays, [], rfl, fun s member => ?_, fun s absent => by cases absent⟩
            exact DistanceOrder.infinite _ _ (of_decide_eq_true (known s member)) finite (infinite s member)
        | false =>
            refine .inl ⟨by simp [closer, finite], fun s member => ?_⟩
            rcases List.mem_append.mp member with before | last
            · exact infinite s before
            · cases List.mem_singleton.mp last
              exact finite
      · rw [found]
        exact .inr (leads_next rays r best known leads)

end ObserverRay

end LandmarkMap
