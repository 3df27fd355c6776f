import Mathlib
import LandmarkMap.Proofs.Config.Decoders
import LandmarkMap.Proofs.Json.Reading

set_option autoImplicit false

namespace LandmarkMap

open Decode

variable {ε α : Type} {reader : NumberReader}

-- Each condition stands with what is reported where it fails; what comes after a failure is not checked.
inductive Checked : List (Prop × ε) → Except ε Unit → Prop
  | done : Checked [] (.ok ())
  | failed {condition : Prop} {refusal : ε} {rest : List (Prop × ε)} (violated : ¬condition) :
      Checked ((condition, refusal) :: rest) (.error refusal)
  | passed {condition : Prop} {refusal : ε} {rest : List (Prop × ε)} {outcome : Except ε Unit} (holds : condition)
      (later : Checked rest outcome) : Checked ((condition, refusal) :: rest) outcome

theorem checked_all {conditions : List (Prop × ε)} {outcome : Except ε Unit} (checked : Checked conditions outcome) :
    outcome = .ok () ↔ ∀ k ∈ conditions, k.1 := by
  induction checked with
  | done => simp
  | failed violated => simp [violated]
  | passed holds _ later_all => simp [holds, later_all]

theorem checked_first {conditions : List (Prop × ε)} {outcome : Except ε Unit} (checked : Checked conditions outcome)
    {before after : List (Prop × ε)} {condition : Prop} {refusal : ε}
    (place : conditions = before ++ (condition, refusal) :: after) (earlier : ∀ k ∈ before, k.1)
    (violated : ¬condition) : outcome = .error refusal := by
  induction before generalizing conditions with
  | nil =>
      subst place
      cases checked with
      | failed => rfl
      | passed holds => exact absurd holds violated
  | cons k before later_first =>
      obtain ⟨holds, others⟩ := List.forall_mem_cons.mp earlier
      subst place
      cases checked with
      | failed fails => exact absurd holds fails
      | passed _ later => exact later_first later rfl others

-- In the order of the checks.
def QualityConfig.conditions [Scalar α] (c : QualityConfig α) : List (Prop × Error α) :=
  [(1 ≤ c.minObservers, .invalidConfig .noObservers),
    (0 ≤ c.minAngleDegrees, .invalidConfig (.negativeAngle c.minAngleDegrees)),
    (c.minDistance ≤ c.maxDistance, .invalidConfig (.emptyDistances c.minDistance c.maxDistance))]

def Config.conditions [Scalar α] (c : Config α) : List (Prop × ConfigRefusal α) :=
  c.quality.conditions.map (fun k => (k.1, .invalid k.2)) ++ [(0 < c.visual.pixelSigma, .pixelSigma)]

theorem conditions_hold [Scalar α] {c : Config α} :
    (∀ k ∈ c.conditions, k.1) ↔ 1 ≤ c.quality.minObservers ∧ 0 ≤ c.quality.minAngleDegrees ∧
      c.quality.minDistance ≤ c.quality.maxDistance ∧ 0 < c.visual.pixelSigma := by
  simp [Config.conditions, QualityConfig.conditions]

theorem checked_ite {condition : Prop} [Decidable condition] {refusal : ε} {rest : List (Prop × ε)}
    {outcome : Except ε Unit} (later : Checked rest outcome) :
    Checked ((condition, refusal) :: rest) (if ¬condition then .error refusal else outcome) := by
  by_cases holds : condition
  · rw [if_neg (not_not_intro holds)]
    exact .passed holds later
  · rw [if_pos holds]
    exact .failed holds

theorem checked_invalid [Scalar α] {conditions : List (Prop × Error α)} {first : Except (Error α) Unit}
    {rest : List (Prop × ConfigRefusal α)} {second : Except (ConfigRefusal α) Unit}
    (checked : Checked conditions first) (later : Checked rest second) :
    Checked (conditions.map (fun k => (k.1, .invalid k.2)) ++ rest)
      (match first with
        | .error cause => .error (.invalid cause)
        | .ok () => second) := by
  induction checked with
  | done => exact later
  | failed violated => exact .failed violated
  | passed holds _ joined => exact .passed holds joined

theorem quality_checked [Scalar α] (c : QualityConfig α) : Checked c.conditions c.validate := by
  rw [QualityConfig.validate, QualityConfig.conditions, Nat.one_le_iff_ne_zero]
  by_cases none : c.minObservers = 0
  · rw [if_pos none]
    exact .failed (absurd none)
  · rw [if_neg none]
    exact .passed none (checked_ite (checked_ite .done))

theorem validate_checked [Scalar α] (c : Config α) : Checked c.conditions c.validate :=
  checked_invalid (quality_checked c.quality) (checked_ite .done)

theorem default_valid : ∀ k ∈ (default : Config Float).conditions, k.1 :=
  conditions_hold.mpr ⟨by decide, by decide +kernel, by decide +kernel, by decide +kernel⟩

theorem text_validated {source : String} {j : Json} {c : Config Float} (document : Json.Padded source.toList j)
    (decoded : config reader j = some c) : Config.ofText reader source = c.validate.map fun _ => c := by
  simp only [Config.ofText, Json.parse_written.mpr document, Option.bind_some, decoded]
  cases c.validate with
  | error refusal => rfl
  | ok _ => rfl

theorem settings_refused {source : String} {j : Json} (document : Json.Padded source.toList j)
    (unwritten : ∀ c, ¬SettingsWritten reader (Json.Held reader nestingLimit) j c) :
    Config.ofText reader source = .error .malformed := by
  have undecoded : config reader j = none :=
    Option.eq_none_iff_forall_ne_some.mpr fun c decoded => unwritten c ((config_decodes j c).mp decoded)
  rw [Config.ofText, Json.parse_written.mpr document, Option.bind_some, undecoded]

/-- A text gives just the settings that its document writes, with the defaults of whatever that leaves out, if they
satisfy all conditions; if they do not, the first condition they violate is reported. -/
theorem settings_read {source : String} {members : List (Option String × Json)} {c : Config Float}
    (document : Json.Padded source.toList (.object members))
    (written : SettingsWritten reader (Json.Held reader nestingLimit) (.object members) c) :
    config reader (.object members) = some c ∧ (Config.ofText reader source = .ok c ↔ ∀ k ∈ c.conditions, k.1) ∧
      ∀ before condition refusal after, c.conditions = before ++ (condition, refusal) :: after →
        (∀ k ∈ before, k.1) → ¬condition → Config.ofText reader source = .error refusal := by
  have decoded := (config_decodes _ c).mpr written
  have validated := text_validated document decoded
  have checked := validate_checked c
  refine ⟨decoded, ?_, fun before condition refusal after place earlier violated => ?_⟩
  · rw [← checked_all checked, validated]
    cases c.validate with
    | error refusal => exact ⟨nofun, nofun⟩
    | ok _ => exact ⟨fun _ => rfl, fun _ => rfl⟩
  · rw [validated, checked_first checked place earlier violated]
    rfl

-- Settings of two sections, among members that nothing knows.
def sparseText : String :=
  "\x7b\"note\":\"\\ud800\",\"dataset\":\x7b\"unit\":1e999,\"camera\":\x7b\"fx\":2,\"fy\":2,\"cx\":2,\"cy\":2," ++
    "\"distortion\":\x7b\"w\":2,\"note\":[],\"type\":\"Fisheye\"\x7d,\"camera_name\":\"left\",\"image_width\":2," ++
    "\"image_height\":2\x7d\x7d,\"landmark_quality\":\x7b\"min_observers\":2\x7d\x7d"

def sparseDistortion : Json :=
  .object [(some "w", .number (.integer false 2)), (some "note", .array []), (some "type", .text (some "Fisheye"))]

def sparseCamera : List (Option String × Json) :=
  let two := .number (.integer false 2)
  [(some "fx", two), (some "fy", two), (some "cx", two), (some "cy", two), (some "distortion", sparseDistortion),
    (some "camera_name", .text (some "left")), (some "image_width", two), (some "image_height", two)]

def sparseMembers : List (Option String × Json) :=
  [(some "note", .text none),
    (some "dataset",
      .object [(some "unit", .number (.decimal false ⟨1, 999⟩ 0)), (some "camera", .object sparseCamera)]),
    (some "landmark_quality", .object [(some "min_observers", .number (.integer false 2))])]

def sparseSettings : Config Float :=
  let camera : PinholeParameters Float :=
    { name := "left", width := 2, height := 2, fx := 2.0, fy := 2.0, cx := 2.0, cy := 2.0,
      distortion := .fieldOfView 2.0 }
  { (default : Config Float) with
    quality := { (default : QualityConfig Float) with minObservers := 2 }
    scene := { (default : SceneConfig Float) with camera } }

theorem sparse_document : Json.Padded sparseText.toList (.object sparseMembers) := Json.parse_written.mp (by cbv)

theorem sparse_written :
    SettingsWritten Numeral.nearest? (Json.Held Numeral.nearest? nestingLimit) (.object sparseMembers) sparseSettings := by
  have two : FloatWritten Numeral.nearest? (.number (.integer false 2)) 2.0 :=
    nearest_written (by decide +kernel) (by decide +kernel)
  have held : sparseDistortion.Held Numeral.nearest? nestingLimit := by
    obtain ⟨read⟩ := two
    refine .object (by simp) ?_
    simp only [List.forall_mem_cons]
    exact ⟨.number read, .array nofun, .text _ _, nofun⟩
  have tagged : Tagged "Fisheye" [("w", .number (.integer false 2))] sparseDistortion := by
    refine .object (member_given.mp (by rfl)) ?_
    simp only [List.forall_mem_cons]
    exact ⟨member_given.mp (by rfl), nofun⟩
  refine .fields (fields_record.mp (by rfl)) (.given ?quality) .kept .kept (.given ?scene) .kept
  case quality => exact .fields (fields_record.mp (by rfl)) .kept (.given (.digits (by decide))) .kept .kept
  case scene =>
    refine .fields (fields_record.mp (by rfl)) .kept .kept .kept .kept .kept .kept .kept .kept .kept (.given ?_) .kept
      .kept
    exact .fields (fields_record.mp (by rfl)) (.given (.value _)) (.given (.digits (by decide)))
      (.given (.digits (by decide))) (.given two) (.given two) (.given two) (.given two)
      (.given (.fieldOfView held tagged two))

theorem sparse_settings_read : Config.ofText Numeral.nearest? sparseText = .ok sparseSettings := by
  have valid : ∀ k ∈ sparseSettings.conditions, k.1 :=
    conditions_hold.mpr ⟨by decide, by decide +kernel, by decide +kernel, by decide +kernel⟩
  exact (settings_read sparse_document sparse_written).2.1.mpr valid

-- A camera as it is by default, with a remark under its distortion model that is no double.
def overflowText : String :=
  "\x7b\"dataset\":\x7b\"camera\":\x7b\"camera_name\":\"cam0\",\"image_width\":752,\"image_height\":480," ++
    "\"fx\":458.654,\"fy\":457.296,\"cx\":367.215,\"cy\":248.375," ++
    "\"distortion\":\x7b\"type\":\"None\",\"comment\":1e999\x7d\x7d\x7d\x7d"

def overflowCamera : List (Option String × Json) :=
  [(some "camera_name", .text (some "cam0")), (some "image_width", .number (.integer false 752)),
    (some "image_height", .number (.integer false 480)), (some "fx", .number (.decimal false ⟨458654, -3⟩ 3)),
    (some "fy", .number (.decimal false ⟨457296, -3⟩ 3)), (some "cx", .number (.decimal false ⟨367215, -3⟩ 3)),
    (some "cy", .number (.decimal false ⟨248375, -3⟩ 3)),
    (some "distortion",
      .object [(some "type", .text (some "None")), (some "comment", .number (.decimal false ⟨1, 999⟩ 0))])]

def overflowMembers : List (Option String × Json) :=
  [(some "dataset", .object [(some "camera", .object overflowCamera)])]

theorem overflow_document : Json.Padded overflowText.toList (.object overflowMembers) :=
  Json.parse_written.mp (by cbv)

theorem overflow_written : SettingsWritten Numeral.nearest? (fun _ => True) (.object overflowMembers) default := by
  refine .fields (fields_record.mp (by rfl)) .kept .kept .kept (.given ?scene) .kept
  refine .fields (fields_record.mp (by rfl)) .kept .kept .kept .kept .kept .kept .kept .kept .kept (.given ?camera)
    .kept .kept
  refine .fields (fields_record.mp (by rfl)) (.given (.value _)) (.given (.digits (by decide)))
    (.given (.digits (by decide))) (.given (nearest_written ?_ ?_)) (.given (nearest_written ?_ ?_))
    (.given (nearest_written ?_ ?_)) (.given (nearest_written ?_ ?_)) (.given (.ideal trivial ?tagged))
  case tagged => exact .object (member_given.mp (by rfl)) nofun
  all_goals decide +kernel

def unpairedText : String := "\x7b\"\\ud800\":1\x7d"

-- Members that no field reads are refused where a distortion model cannot be held for them, and where their names are
-- no texts.
theorem unknown_members_refused :
    (∀ k ∈ (default : Config Float).conditions, k.1) ∧
      (Json.Padded overflowText.toList (.object overflowMembers) ∧
        SettingsWritten Numeral.nearest? (fun _ => True) (.object overflowMembers) default ∧
        Config.ofText Numeral.nearest? overflowText = .error .malformed) ∧
      Json.Padded unpairedText.toList (.object [(none, .number (.integer false 1))]) ∧
      Config.ofText Numeral.nearest? unpairedText = .error .malformed := by
  have overflowing : (config Numeral.nearest? (.object overflowMembers)).isNone = true := by decide +kernel
  have unpaired : Json.parse unpairedText = some (.object [(none, .number (.integer false 1))]) := by cbv
  refine ⟨default_valid, ⟨overflow_document, overflow_written, ?_⟩, Json.parse_written.mp unpaired, ?_⟩
  · rw [Config.ofText, Json.parse_written.mpr overflow_document, Option.bind_some,
      Option.isNone_iff_eq_none.mp overflowing]
  · rw [Config.ofText, unpaired]
    rfl

end LandmarkMap
