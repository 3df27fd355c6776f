import Mathlib.Data.List.Forall2
import LandmarkMap.Proofs.Config.Documents

set_option autoImplicit false

namespace LandmarkMap

open Decode

variable {τ : Type} {reader : NumberReader}

theorem unnamed {members : List (Option String × Json)} {name : String} :
    members.filter (fun m => m.1 = some name) = [] ↔ ∀ value, (some name, value) ∉ members := by
  rw [List.filter_eq_nil_iff]
  constructor
  · intro others value inside
    simpa using others _ inside
  · intro missing m inside same
    refine missing m.2 ?_
    rwa [← of_decide_eq_true same]

theorem member_given {members : List (Option String × Json)} {name : String} {given : Option Json} :
    member members name = some given ↔ Given members name given := by
  constructor
  · intro found
    simp only [member] at found
    split at found
    · next nothing =>
        cases found
        exact .absent (unnamed.mp nothing)
    · next m value one =>
        cases found
        obtain ⟨before, after, place, earlier, here, later⟩ := List.filter_eq_cons_iff.mp one
        obtain rfl : m = some name := by simpa using here
        refine .once place fun other inside => ?_
        rcases List.mem_append.mp inside with inside | inside
        · exact earlier _ inside (by simp)
        · exact unnamed.mp later other inside
    · cases found
  · rintro (missing | ⟨place, only⟩)
    · rw [member, unnamed.mpr missing]
    · rename_i before after value
      have earlier := unnamed.mpr fun other inside => only other (List.mem_append_left after inside)
      have later := unnamed.mpr fun other inside => only other (List.mem_append_right before inside)
      have one : members.filter (fun m => m.1 = some name) = [(some name, value)] := by
        rw [place, List.filter_append, List.filter_cons_of_pos (by simp), earlier, later, List.nil_append]
      rw [member, one]

theorem mapM_some {σ : Type} {f : σ → Option τ} {items : List σ} {results : List τ} :
    items.mapM f = some results ↔ List.Forall₂ (fun item result => f item = some result) items results := by
  induction items generalizing results with
  | nil => simp [eq_comm]
  | cons item rest ih =>
      rw [List.mapM_cons, List.forall₂_cons_left_iff]
      constructor
      · intro found
        obtain ⟨result, first, found⟩ := Option.bind_eq_some_iff.mp found
        obtain ⟨others, rest_found, found⟩ := Option.bind_eq_some_iff.mp found
        exact ⟨result, others, first, ih.mp rest_found, (Option.some.inj found).symm⟩
      · rintro ⟨result, others, first, rest_found, rfl⟩
        rw [first, ih.mpr rest_found]
        rfl

theorem forall₂_through {σ ρ : Type} {first : σ → τ → Prop} {second : τ → ρ → Prop} {starts : List σ}
    {ends : List ρ} :
    List.Forall₂ (fun a c => ∃ b, first a b ∧ second b c) starts ends ↔
      ∃ middles, List.Forall₂ first starts middles ∧ List.Forall₂ second middles ends := by
  constructor
  · intro linked
    induction linked with
    | nil => exact ⟨[], .nil, .nil⟩
    | cons link _ rest_linked =>
        obtain ⟨b, before, after⟩ := link
        obtain ⟨middles, befores, afters⟩ := rest_linked
        exact ⟨b :: middles, .cons before befores, .cons after afters⟩
  · rintro ⟨middles, befores, afters⟩
    induction befores generalizing ends with
    | nil =>
        cases afters
        exact .nil
    | cons before _ rest_linked =>
        cases afters with
        | cons after afters => exact .cons ⟨_, before, after⟩ (rest_linked afters)

theorem members_given {members : List (Option String × Json)} {fields : List (String × Option Json)} :
    (fields.map (·.1)).mapM (member members) = some (fields.map (·.2)) ↔
      ∀ f ∈ fields, Given members f.1 f.2 := by
  simp only [mapM_some, member_given, List.forall₂_map_left_iff, List.forall₂_map_right_iff, List.forall₂_same]

theorem padded_given {fields : List (String × Option Json)} {items : List Json}
    (short : items.length ≤ fields.length) :
    items.map some ++ List.replicate (fields.length - items.length) none = fields.map (·.2) ↔
      ∀ (i : Nat) (bound : i < fields.length), fields[i].2 = items[i]? := by
  have padded {i : Nat} (bound : i < fields.length) :
      (items.map some ++ List.replicate (fields.length - items.length) none)[i]? = some items[i]? := by
    rw [List.getElem?_append, List.getElem?_map, List.getElem?_replicate, List.length_map]
    split
    · next inside => simp [inside]
    · next outside => rw [if_pos (by omega), List.getElem?_eq_none (by omega)]
  constructor
  · intro same i bound
    have here := padded bound
    rw [same, List.getElem?_map, List.getElem?_eq_getElem bound] at here
    exact Option.some.inj here
  · intro given
    refine List.ext_getElem? fun i => ?_
    by_cases bound : i < fields.length
    · rw [padded bound, List.getElem?_map, List.getElem?_eq_getElem bound, Option.map_some, given i bound]
    · rw [List.getElem?_eq_none (by simp; omega), List.getElem?_eq_none (by simp; omega)]

theorem fields_record {fields : List (String × Option Json)} {j : Json} :
    Decode.fields (fields.map (·.1)) j = some (fields.map (·.2)) ↔ Record fields j := by
  have names_present {members : List (Option String × Json)} :
      members.all (·.1.isSome) = true ↔ ∀ m ∈ members, m.1 ≠ none := by
    simp only [List.all_eq_true, Option.isSome_iff_ne_none]
  constructor
  · intro found
    cases j with
    | object members =>
        simp only [Decode.fields] at found
        split at found
        · next named => exact .object (names_present.mp named) (members_given.mp found)
        · cases found
    | array items =>
        simp only [Decode.fields, List.length_map] at found
        split at found
        · next short => exact .array short ((padded_given short).mp (Option.some.inj found))
        · cases found
    | null | bool | number | text => cases found
  · rintro (⟨named, given⟩ | ⟨short, given⟩)
    · rw [Decode.fields, if_pos (names_present.mpr named)]
      exact members_given.mpr given
    · rw [Decode.fields, List.length_map, if_pos short, (padded_given short).mpr given]

theorem fields_count {names : List String} {j : Json} {values : List (Option Json)}
    (found : Decode.fields names j = some values) : names.length = values.length := by
  match j, found with
  | .object members, found =>
      simp only [Decode.fields] at found
      split at found
      · exact (mapM_some.mp found).length_eq
      · cases found
  | .array items, found =>
      simp only [Decode.fields] at found
      split at found
      · cases found
        simp_all
      · cases found

theorem built_record {names : List String} {j : Json} {build : List (Option Json) → Option τ} {x : τ} :
    (Decode.fields names j).bind build = some x ↔
      ∃ values, names.length = values.length ∧ Record (names.zip values) j ∧ build values = some x := by
  have fields_zip {values : List (Option Json)} (count : names.length = values.length) :
      Decode.fields names j = some values ↔ Record (names.zip values) j := by
    rw [← fields_record, List.map_fst_zip (Nat.le_of_eq count), List.map_snd_zip (Nat.le_of_eq count.symm)]
  rw [Option.bind_eq_some_iff]
  constructor
  · rintro ⟨values, found, built⟩
    have count := fields_count found
    exact ⟨values, count, (fields_zip count).mp found, built⟩
  · rintro ⟨values, count, record, built⟩
    exact ⟨values, (fields_zip count).mpr record, built⟩

-- A decoder takes what is written, returns what that says and refuses anything else.
def Decodes (decode : Json → Option τ) (writes : Json → τ → Prop) : Prop :=
  ∀ j x, decode j = some x ↔ writes j x

theorem required_given {decode : Json → Option τ} {writes : Json → τ → Prop} (exact : Decodes decode writes)
    {given : Option Json} {x : τ} : required decode given = some x ↔ Required writes given x := by
  cases given with
  | none => exact ⟨nofun, nofun⟩
  | some j =>
      rw [required, exact j x]
      exact ⟨.given, fun | .given written => written⟩

theorem optional_given {decode : Json → Option τ} {writes : Json → τ → Prop} (exact : Decodes decode writes)
    {default : τ} {given : Option Json} {x : τ} :
    Decode.optional decode default given = some x ↔ Field writes default given x := by
  cases given with
  | none =>
      constructor
      · rintro ⟨⟩
        exact .kept
      · rintro ⟨⟩
        rfl
  | some j =>
      rw [Decode.optional, exact j x]
      exact ⟨.given, fun | .given written => written⟩

theorem float_decodes : Decodes (float reader) (FloatWritten reader) := by
  intro j x
  cases j with
  | number n => exact ⟨.number, fun | .number read => read⟩
  | null | bool | text | array | object => exact ⟨nofun, nofun⟩

theorem nearest_written {n : Numeral} {x : Float} (finite : n.toFloat.isFinite = true) (same : n.toFloat = x) :
    FloatWritten Numeral.nearest? (.number n) x :=
  .number (by rw [Numeral.nearest?, if_pos finite, same])

theorem natural_decodes (bound : Nat) : Decodes (natural bound) (NaturalWritten bound) := by
  intro j x
  constructor
  · intro found
    match j, found with
    | .number (.integer false n), found =>
        simp only [natural, Numeral.natural?] at found
        split at found
        · next small =>
            cases found
            exact .digits small
        · cases found
  · rintro ⟨small⟩
    simp [natural, Numeral.natural?, small]

theorem word_decodes : Decodes word (NaturalWritten UInt64.size) := natural_decodes UInt64.size

theorem threads_decodes : Decodes word? ThreadsWritten := by
  intro j x
  constructor
  · intro found
    unfold word? at found
    split at found
    · cases found
      exact .unset
    · obtain ⟨n, read, rfl⟩ := Option.map_eq_some_iff.mp found
      exact .count ((word_decodes _ n).mp read)
  · rintro (⟨⟩ | ⟨written⟩)
    · rfl
    · cases written with
      | digits small => simp [word?, word, natural, Numeral.natural?, small]

theorem bool_decodes : Decodes bool BoolWritten := by
  intro j x
  constructor
  · intro found
    match j, found with
    | .bool b, rfl => exact .value b
  · rintro ⟨⟩
    rfl

theorem text_decodes : Decodes text TextWritten := by
  intro j x
  constructor
  · intro found
    match j, found with
    | .text (some t), rfl => exact .value t
  · rintro ⟨⟩
    rfl

theorem pair_decodes : Decodes (floatPair reader) (PairWritten reader) := by
  intro j x
  constructor
  · intro found
    match j, found with
    | .array [a, b], found =>
        simp only [floatPair, Option.bind_eq_bind, Option.bind_eq_some_iff, Option.pure_def, Option.some.injEq] at found
        obtain ⟨_, first, _, second, rfl⟩ := found
        exact .items ((float_decodes _ _).mp first) ((float_decodes _ _).mp second)
  · rintro ⟨first, second⟩
    simp [floatPair, (float_decodes _ _).mpr first, (float_decodes _ _).mpr second]

mutual
theorem value_held : (depth : Nat) → (j : Json) → (j.isHeld reader depth = true ↔ j.Held reader depth)
  | depth, .null => ⟨fun _ => .null depth, fun _ => by simp [Json.isHeld]⟩
  | depth, .bool b => ⟨fun _ => .bool depth b, fun _ => by simp [Json.isHeld]⟩
  | depth, .number n => by
      rw [Json.isHeld, Option.isSome_iff_exists]
      exact ⟨fun ⟨x, read⟩ => .number read, fun | .number read => ⟨_, read⟩⟩
  | depth, .text none => ⟨fun held => by simp [Json.isHeld] at held, nofun⟩
  | depth, .text (some t) => ⟨fun _ => .text depth t, fun _ => by simp [Json.isHeld]⟩
  | 0, .array items => ⟨fun held => by simp [Json.isHeld] at held, nofun⟩
  | 0, .object members => ⟨fun held => by simp [Json.isHeld] at held, nofun⟩
  | depth + 1, .array items => by
      simp only [Json.isHeld, Nat.zero_lt_succ, decide_true, Bool.true_and, Nat.add_sub_cancel, items_held depth items]
      exact ⟨.array, fun | .array all => all⟩
  | depth + 1, .object members => by
      simp only [Json.isHeld, Nat.zero_lt_succ, decide_true, Bool.true_and, Nat.add_sub_cancel,
        members_held depth members]
      exact ⟨fun held => .object held.1 held.2, fun | .object named all => ⟨named, all⟩⟩

theorem items_held : (depth : Nat) → (items : List Json) →
    (Json.areHeld reader depth items = true ↔ ∀ item ∈ items, item.Held reader depth)
  | _, [] => by simp [Json.areHeld]
  | depth, item :: rest => by
      rw [Json.areHeld, Bool.and_eq_true, value_held depth item, items_held depth rest, List.forall_mem_cons]

theorem members_held : (depth : Nat) → (members : List (Option String × Json)) →
    (Json.membersHeld reader depth members = true ↔
      (∀ m ∈ members, m.1 ≠ none) ∧ ∀ m ∈ members, m.2.Held reader depth)
  | _, [] => by simp [Json.membersHeld]
  | depth, (name, value) :: rest => by
      rw [Json.membersHeld, Bool.and_eq_true, Bool.and_eq_true, value_held depth value, members_held depth rest,
        List.forall_mem_cons, List.forall_mem_cons, Option.isSome_iff_ne_none, and_and_and_comm]
end

theorem member_others {members : List (Option String × Json)} {name other : String} (different : name ≠ other) :
    member (members.filter fun m => m.1 ≠ some other) name = member members name := by
  have same : (members.filter fun m => m.1 ≠ some other).filter (fun m => m.1 = some name) =
      members.filter fun m => m.1 = some name := by
    rw [List.filter_filter]
    refine List.filter_congr fun m _ => ?_
    by_cases named : m.1 = some name <;> simp [named, different]
  rw [member, same, member]

theorem parameter_given {members : List (Option String × Json)} {name : String} {x : Float} :
    ((member members name).bind fun given => required (float reader) given) = some x ↔
      ∃ item, Given members name (some item) ∧ FloatWritten reader item x := by
  constructor
  · intro found
    obtain ⟨given, named, found⟩ := Option.bind_eq_some_iff.mp found
    obtain ⟨written⟩ := (required_given float_decodes).mp found
    exact ⟨_, member_given.mp named, written⟩
  · rintro ⟨item, named, written⟩
    exact Option.bind_eq_some_iff.mpr
      ⟨some item, member_given.mpr named, (required_given float_decodes).mpr (.given written)⟩

theorem floats_written {items : List Json} {values : List Float} :
    items.mapM (float reader) = some values ↔ List.Forall₂ (FloatWritten reader) items values := by
  simp only [mapM_some, float_decodes _ _]

-- A tagged document and what follows its tag.
inductive Body (tag : String) : Json → Json → Prop
  | object {members : List (Option String × Json)} (type : Given members "type" (some (.text (some tag)))) :
      Body tag (.object members) (.object (members.filter fun m => m.1 ≠ some "type"))
  | array (rest : List Json) : Body tag (.array (.text (some tag) :: rest)) (.array rest)

theorem distortion_body {j : Json} {model : Distortion Float} :
    distortion reader j = some model ↔
      j.Held reader nestingLimit ∧ ∃ tag body, Body tag j body ∧ distortionOf reader tag body = some model := by
  rw [← value_held]
  unfold distortion
  by_cases held : j.isHeld reader nestingLimit = true
  · rw [if_pos held]
    constructor
    · intro found
      refine ⟨held, ?_⟩
      split at found
      · obtain ⟨given, named, found⟩ := Option.bind_eq_some_iff.mp found
        obtain ⟨tag, tagged, found⟩ := Option.bind_eq_some_iff.mp found
        obtain ⟨⟨⟩⟩ := (required_given text_decodes).mp tagged
        exact ⟨tag, _, .object (member_given.mp named), found⟩
      · obtain ⟨tag, tagged, found⟩ := Option.bind_eq_some_iff.mp found
        cases (text_decodes _ _).mp tagged
        exact ⟨tag, _, .array _, found⟩
      · cases found
    · rintro ⟨-, tag, body, type | rest, found⟩
      · simp only [member_given.mpr type, Option.bind_eq_bind, Option.bind_some]
        exact found
      · exact found
  · rw [if_neg held]
    exact ⟨nofun, fun written => absurd written.1 held⟩

theorem tagged_fields {tag : String} {j : Json} {names : List String} (untagged : "type" ∉ names)
    {values : List Float} :
    (∃ body, Body tag j body ∧ distortionFields reader names body = some values) ↔
      ∃ items, names.length = items.length ∧ Tagged tag (names.zip items) j ∧
        List.Forall₂ (FloatWritten reader) items values := by
  have same_lengths {items : List Json} (count : names.length = items.length) :
      (names.zip items).map (·.2) = items := List.map_snd_zip (Nat.le_of_eq count.symm)
  have by_name {members : List (Option String × Json)} :
      distortionFields reader names (.object (members.filter fun m => m.1 ≠ some "type")) = some values ↔
        ∃ items, List.Forall₂ (fun name item => Given members name (some item)) names items ∧
          List.Forall₂ (FloatWritten reader) items values := by
    rw [← forall₂_through, distortionFields, mapM_some, List.forall₂_iff_zip, List.forall₂_iff_zip]
    refine and_congr_right fun _ => forall₂_congr fun name x => imp_congr_right fun inside => ?_
    have different : name ≠ "type" := fun same => untagged (same ▸ (List.of_mem_zip inside).1)
    rw [member_others different]
    exact parameter_given
  constructor
  · rintro ⟨_, ⟨type⟩ | rest, found⟩
    · obtain ⟨items, given, written⟩ := by_name.mp found
      obtain ⟨count, each⟩ := List.forall₂_iff_zip.mp given
      exact ⟨items, count, .object type fun p inside => each inside, written⟩
    · simp only [distortionFields] at found
      split at found
      · next count =>
          refine ⟨rest, count.symm, ?_, floats_written.mp found⟩
          have tagged : Tagged tag (names.zip rest) (.array (.text (some tag) :: (names.zip rest).map (·.2))) := .array
          rwa [same_lengths count.symm] at tagged
      · cases found
  · rintro ⟨items, count, ⟨type, given⟩ | -, written⟩
    · refine ⟨_, .object type, by_name.mpr ⟨items, ?_, written⟩⟩
      exact List.forall₂_iff_zip.mpr ⟨count, fun inside => given _ inside⟩
    · rw [same_lengths count]
      refine ⟨_, .array _, ?_⟩
      rw [distortionFields, if_pos count.symm]
      exact floats_written.mpr written

theorem distortion_decodes : Decodes (distortion reader) (DistortionWritten reader (Json.Held reader nestingLimit)) := by
  intro j model
  rw [distortion_body]
  constructor
  · rintro ⟨held, tag, body, follows, found⟩
    simp only [distortionOf] at found
    split at found
    · -- No parameters: an array ends after the tag, and an object may go on with anything.
      cases follows with
      | object type =>
          cases found
          exact .ideal held (.object type nofun)
      | array rest =>
          split at found
          · cases found
          · next other =>
              cases found
              obtain _ | ⟨item, items⟩ := rest
              · exact .ideal held .array
              · exact absurd rfl (other item items)
    · obtain ⟨values, read, found⟩ := Option.bind_eq_some_iff.mp found
      split at found
      · cases found
        obtain ⟨items, -, tagged, written⟩ := (tagged_fields (by decide)).mp ⟨body, follows, read⟩
        obtain _ | ⟨k1, _ | ⟨k2, _ | ⟨p1, _ | ⟨p2, ⟨⟩⟩⟩⟩⟩ := written
        exact .radialTangential held tagged k1 k2 p1 p2
      · cases found
    · obtain ⟨values, read, found⟩ := Option.bind_eq_some_iff.mp found
      split at found
      · cases found
        obtain ⟨items, -, tagged, written⟩ := (tagged_fields (by decide)).mp ⟨body, follows, read⟩
        obtain _ | ⟨w, ⟨⟩⟩ := written
        exact .fieldOfView held tagged w
      · cases found
    · cases found
  · rintro (⟨held, tagged⟩ | ⟨held, tagged, k1, k2, p1, p2⟩ | ⟨held, tagged, w⟩)
    · refine ⟨held, "None", ?_⟩
      cases tagged with
      | object type => exact ⟨_, .object type, rfl⟩
      | array => exact ⟨_, .array [], rfl⟩
    · have untagged : "type" ∉ ["k1", "k2", "p1", "p2"] := by decide
      obtain ⟨body, follows, read⟩ :=
        (tagged_fields untagged).mpr ⟨_, rfl, tagged, .cons k1 (.cons k2 (.cons p1 (.cons p2 .nil)))⟩
      refine ⟨held, "RadTan", body, follows, ?_⟩
      simp [distortionOf, read]
    · have untagged : "type" ∉ ["w"] := by decide
      obtain ⟨body, follows, read⟩ := (tagged_fields untagged).mpr ⟨_, rfl, tagged, .cons w .nil⟩
      refine ⟨held, "Fisheye", body, follows, ?_⟩
      simp [distortionOf, read]

theorem quality_decodes : Decodes (quality reader) (QualityWritten reader) := by
  intro j c
  rw [quality, Option.bind_eq_bind, built_record]
  constructor
  · rintro ⟨values, -, record, built⟩
    split at built
    · simp only [Option.bind_eq_bind, Option.bind_eq_some_iff, Option.pure_def, Option.some.injEq,
        optional_given float_decodes, optional_given word_decodes] at built
      obtain ⟨_, angle, _, observers, _, farthest, _, nearest, rfl⟩ := built
      exact .fields record angle observers farthest nearest
    · cases built
  · rintro ⟨record, angle, observers, farthest, nearest⟩
    refine ⟨[_, _, _, _], rfl, record, ?_⟩
    simp only [Option.bind_eq_bind, Option.bind_eq_some_iff, Option.pure_def, Option.some.injEq,
      optional_given float_decodes, optional_given word_decodes]
    exact ⟨_, angle, _, observers, _, farthest, _, nearest, rfl⟩

theorem visual_decodes : Decodes (visual reader) (VisualWritten reader) := by
  intro j c
  rw [visual, Option.bind_eq_bind, built_record]
  constructor
  · rintro ⟨values, -, record, built⟩
    split at built
    · simp only [Option.bind_eq_bind, Option.bind_eq_some_iff, Option.pure_def, Option.some.injEq,
        optional_given float_decodes, optional_given bool_decodes] at built
      obtain ⟨_, sigma, _, fix, rfl⟩ := built
      exact .fields record sigma fix
    · cases built
  · rintro ⟨record, sigma, fix⟩
    refine ⟨[_, _], rfl, record, ?_⟩
    simp only [Option.bind_eq_bind, Option.bind_eq_some_iff, Option.pure_def, Option.some.injEq,
      optional_given float_decodes, optional_given bool_decodes]
    exact ⟨_, sigma, _, fix, rfl⟩

theorem parallel_decodes : Decodes parallel ParallelWritten := by
  intro j c
  rw [parallel, Option.bind_eq_bind, built_record]
  constructor
  · rintro ⟨values, -, record, built⟩
    split at built
    · simp only [Option.bind_eq_bind, Option.bind_eq_some_iff, Option.pure_def, Option.some.injEq,
        optional_given bool_decodes, optional_given threads_decodes] at built
      obtain ⟨_, always, _, threads, rfl⟩ := built
      exact .fields record always threads
    · cases built
  · rintro ⟨record, always, threads⟩
    refine ⟨[_, _], rfl, record, ?_⟩
    simp only [Option.bind_eq_bind, Option.bind_eq_some_iff, Option.pure_def, Option.some.injEq,
      optional_given bool_decodes, optional_given threads_decodes]
    exact ⟨_, always, _, threads, rfl⟩

theorem corruption_decodes : Decodes (corruption reader) (CorruptionWritten reader) := by
  intro j c
  rw [corruption, Option.bind_eq_bind, built_record]
  constructor
  · rintro ⟨values, -, record, built⟩
    split at built
    · simp only [Option.bind_eq_bind, Option.bind_eq_some_iff, Option.pure_def, Option.some.injEq,
        optional_given float_decodes, optional_given word_decodes] at built
      obtain ⟨_, stdDev, _, everyNth, _, seed, rfl⟩ := built
      exact .fields record stdDev everyNth seed
    · cases built
  · rintro ⟨record, stdDev, everyNth, seed⟩
    refine ⟨[_, _, _], rfl, record, ?_⟩
    simp only [Option.bind_eq_bind, Option.bind_eq_some_iff, Option.pure_def, Option.some.injEq,
      optional_given float_decodes, optional_given word_decodes]
    exact ⟨_, stdDev, _, everyNth, _, seed, rfl⟩

theorem pinhole_decodes : Decodes (pinhole reader) (CameraWritten reader (Json.Held reader nestingLimit)) := by
  intro j c
  rw [pinhole, Option.bind_eq_bind, built_record]
  constructor
  · rintro ⟨values, -, record, built⟩
    split at built
    · simp only [Option.bind_eq_bind, Option.bind_eq_some_iff, Option.pure_def, Option.some.injEq,
        required_given text_decodes, required_given (natural_decodes _), required_given float_decodes,
        optional_given distortion_decodes] at built
      obtain ⟨_, name, _, width, _, height, _, fx, _, fy, _, cx, _, cy, _, distortion, rfl⟩ := built
      exact .fields record name width height fx fy cx cy distortion
    · cases built
  · rintro ⟨record, name, width, height, fx, fy, cx, cy, distortion⟩
    refine ⟨[_, _, _, _, _, _, _, _], rfl, record, ?_⟩
    simp only [Option.bind_eq_bind, Option.bind_eq_some_iff, Option.pure_def, Option.some.injEq,
      required_given text_decodes, required_given (natural_decodes _), required_given float_decodes,
      optional_given distortion_decodes]
    exact ⟨_, name, _, width, _, height, _, fx, _, fy, _, cx, _, cy, _, distortion, rfl⟩

theorem scene_decodes : Decodes (scene reader) (SceneWritten reader (Json.Held reader nestingLimit)) := by
  intro j c
  rw [scene, Option.bind_eq_bind, built_record]
  constructor
  · rintro ⟨values, -, record, built⟩
    split at built
    · simp only [Option.bind_eq_bind, Option.bind_eq_some_iff, Option.pure_def, Option.some.injEq,
        optional_given word_decodes, optional_given float_decodes, optional_given pair_decodes,
        optional_given pinhole_decodes] at built
      obtain ⟨_, vertices, _, spacing, _, period, _, landmarks, _, depths, _, farLandmarks, _, farDepths, _, cameras,
        _, baseline, _, camera, _, noise, _, seed, rfl⟩ := built
      exact .fields record vertices spacing period landmarks depths farLandmarks farDepths cameras baseline camera
        noise seed
    · cases built
  · rintro ⟨record, vertices, spacing, period, landmarks, depths, farLandmarks, farDepths, cameras, baseline, camera,
      noise, seed⟩
    refine ⟨[_, _, _, _, _, _, _, _, _, _, _, _], rfl, record, ?_⟩
    simp only [Option.bind_eq_bind, Option.bind_eq_some_iff, Option.pure_def, Option.some.injEq,
      optional_given word_decodes, optional_given float_decodes, optional_given pair_decodes,
      optional_given pinhole_decodes]
    exact ⟨_, vertices, _, spacing, _, period, _, landmarks, _, depths, _, farLandmarks, _, farDepths, _, cameras,
      _, baseline, _, camera, _, noise, _, seed, rfl⟩

theorem config_decodes : Decodes (config reader) (SettingsWritten reader (Json.Held reader nestingLimit)) := by
  intro j c
  rw [config, Option.bind_eq_bind, built_record]
  constructor
  · rintro ⟨values, -, record, built⟩
    split at built
    · simp only [Option.bind_eq_bind, Option.bind_eq_some_iff, Option.pure_def, Option.some.injEq,
        optional_given quality_decodes, optional_given visual_decodes, optional_given parallel_decodes,
        optional_given scene_decodes, optional_given corruption_decodes] at built
      obtain ⟨_, quality, _, visual, _, parallel, _, scene, _, corruption, rfl⟩ := built
      exact .fields record quality visual parallel scene corruption
    · cases built
  · rintro ⟨record, quality, visual, parallel, scene, corruption⟩
    refine ⟨[_, _, _, _, _], rfl, record, ?_⟩
    simp only [Option.bind_eq_bind, Option.bind_eq_some_iff, Option.pure_def, Option.some.injEq,
      optional_given quality_decodes, optional_given visual_decodes, optional_given parallel_decodes,
      optional_given scene_decodes, optional_given corruption_decodes]
    exact ⟨_, quality, _, visual, _, parallel, _, scene, _, corruption, rfl⟩

end LandmarkMap
