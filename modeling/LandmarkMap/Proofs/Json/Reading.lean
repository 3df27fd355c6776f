import LandmarkMap.Proofs.Json.Tokens

set_option autoImplicit false

namespace LandmarkMap.Json

theorem skip_skipped (cs : List Char) : skipSpace (skipSpace cs) = skipSpace cs :=
  List.dropWhile_idempotent isSpace cs

theorem value_skipped (depth : Nat) (cs : List Char) : readValue depth (skipSpace cs) = readValue depth cs := by
  cases depth with
  | zero => rfl
  | succ depth => rw [readValue, readValue, skip_skipped]

theorem items_skipped (depth : Nat) (cs : List Char) : readItems depth (skipSpace cs) = readItems depth cs := by
  cases depth with
  | zero => rfl
  | succ depth => rw [readItems, readItems, value_skipped]

theorem members_skipped (depth : Nat) (cs : List Char) : readMembers depth (skipSpace cs) = readMembers depth cs := by
  cases depth with
  | zero => rfl
  | succ depth => rw [readMembers, readMembers, skip_skipped]

-- Every reader calls the others with less depth, so the induction is on the depth; a value takes the space before it,
-- and the space after it is skipped by what follows.
mutual
theorem value_read {depth : Nat} {cs rest : List Char} {j : Json} (read : readValue depth cs = some (j, rest)) :
    ∃ text, cs = text ++ skipSpace rest ∧ Padded text j := by
  cases depth with
  | zero => cases read
  | succ depth =>
      obtain ⟨before, first, whole⟩ := skip_splits cs
      obtain ⟨after, last, left⟩ := skip_splits rest
      suffices found : ∃ text, skipSpace cs = text ++ rest ∧ Written text j by
        obtain ⟨text, same, written⟩ := found
        refine ⟨before ++ (text ++ after), ?_, .between first written last⟩
        rw [List.append_assoc, List.append_assoc, ← left, ← same, ← whole]
      rw [readValue] at read
      split at read
      case h_1 tail same =>
        cases read
        exact ⟨_, same, .null⟩
      case h_2 tail same =>
        cases read
        exact ⟨_, same, .true⟩
      case h_3 tail same =>
        cases read
        exact ⟨_, same, .false⟩
      case h_4 tail same =>
        obtain ⟨⟨t, left⟩, named, value⟩ := Option.map_eq_some_iff.mp read
        cases value
        obtain ⟨text, parts, quoted⟩ := quoted_read named
        exact ⟨text, same.trans parts, .text quoted⟩
      case h_5 tail same =>
        rw [same]
        obtain ⟨space, blank, inner⟩ := skip_splits tail
        split at read
        case h_1 closed =>
          cases read
          refine ⟨'[' :: (space ++ [']']), ?_, .emptyArray blank⟩
          rw [inner, closed, List.cons_append, List.append_assoc]
          rfl
        case h_2 opened =>
          rw [items_skipped] at read
          obtain ⟨⟨items, left⟩, listed, value⟩ := Option.map_eq_some_iff.mp read
          cases value
          obtain ⟨text, rfl, written⟩ := items_read listed
          exact ⟨'[' :: (text ++ [']']), by simp, .array written⟩
      case h_6 tail same =>
        rw [same]
        obtain ⟨space, blank, inner⟩ := skip_splits tail
        split at read
        case h_1 closed =>
          cases read
          refine ⟨'\x7b' :: (space ++ ['\x7d']), ?_, .emptyObject blank⟩
          rw [inner, closed, List.cons_append, List.append_assoc]
          rfl
        case h_2 opened =>
          rw [members_skipped] at read
          obtain ⟨⟨members, left⟩, listed, value⟩ := Option.map_eq_some_iff.mp read
          cases value
          obtain ⟨text, rfl, written⟩ := members_read listed
          exact ⟨'\x7b' :: (text ++ ['\x7d']), by simp, .object written⟩
      case h_7 =>
        obtain ⟨⟨n, left⟩, digits, value⟩ := Option.map_eq_some_iff.mp read
        cases value
        obtain ⟨text, parts, numeral⟩ := numeral_read digits
        exact ⟨text, parts, .number numeral⟩

theorem items_read {depth : Nat} {cs rest : List Char} {items : List Json}
    (read : readItems depth cs = some (items, rest)) :
    ∃ text, cs = text ++ ']' :: rest ∧ ItemsWritten text items := by
  cases depth with
  | zero => cases read
  | succ depth =>
      rw [readItems] at read
      obtain ⟨⟨item, left⟩, first, read⟩ := Option.bind_eq_some_iff.mp read
      obtain ⟨text, whole, written⟩ := value_read first
      dsimp only at read
      split at read
      case h_1 closed =>
        cases read
        exact ⟨text, by rw [whole, closed], .last written⟩
      case h_2 tail parted =>
        obtain ⟨⟨others, _⟩, later, read⟩ := Option.bind_eq_some_iff.mp read
        cases read
        obtain ⟨more, rfl, listed⟩ := items_read later
        exact ⟨text ++ ',' :: more, by simp [whole, parted], .more written listed⟩
      case h_3 => cases read

theorem members_read {depth : Nat} {cs rest : List Char} {members : List (Option String × Json)}
    (read : readMembers depth cs = some (members, rest)) :
    ∃ text, cs = text ++ '\x7d' :: rest ∧ MembersWritten text members := by
  cases depth with
  | zero => cases read
  | succ depth =>
      rw [readMembers] at read
      obtain ⟨before, first, whole⟩ := skip_splits cs
      split at read
      case h_1 inner opened =>
        obtain ⟨⟨name, left⟩, named, read⟩ := Option.bind_eq_some_iff.mp read
        dsimp only at read
        split at read
        case h_1 inside colon =>
          obtain ⟨⟨item, afterItem⟩, held, read⟩ := Option.bind_eq_some_iff.mp read
          obtain ⟨quoted, parts, written⟩ := quoted_read named
          obtain ⟨gap, blank, between⟩ := skip_splits left
          obtain ⟨text, value, padded⟩ := value_read held
          have start : cs = before ++ (quoted ++ (gap ++ ':' :: (text ++ skipSpace afterItem))) := by
            rw [whole, opened, parts, between, colon, value]
          dsimp only at read
          split at read
          case h_1 closed =>
            cases read
            refine ⟨before ++ (quoted ++ (gap ++ ':' :: text)), ?_, .last first written blank padded⟩
            simp [start, closed]
          case h_2 tail parted =>
            obtain ⟨⟨others, _⟩, later, read⟩ := Option.bind_eq_some_iff.mp read
            cases read
            obtain ⟨more, rfl, listed⟩ := members_read later
            refine ⟨before ++ (quoted ++ (gap ++ ':' :: (text ++ ',' :: more))), ?_,
              .more first written blank padded listed⟩
            simp [start, parted]
          case h_3 => cases read
        case h_2 => cases read
      case h_2 => cases read
end

theorem value_numeral {depth : Nat} {c : Char} {cs : List Char} (starts : c.isDigit = true ∨ c = '-') :
    readValue (depth + 1) (c :: cs) = (readNumeral (c :: cs)).map fun (n, rest) => (number n, rest) := by
  have solid : c ∉ spaces := numeral_outside starts (by simp [spaces])
  have apart : c ∉ ['n', 't', 'f', '"', '[', '\x7b'] := numeral_outside starts (by simp)
  rw [readValue, skip_solid solid]
  split
  case h_7 => rfl
  all_goals
    next same =>
      simp [(List.cons.inj same).1] at apart

theorem value_quoted (depth : Nat) (cs : List Char) :
    readValue (depth + 1) ('"' :: cs) = (readText cs).map fun (t, rest) => (text t, rest) := by
  rw [readValue, skip_solid (by decide)]
  rfl

theorem value_bracket (depth : Nat) (cs : List Char) :
    readValue (depth + 1) ('[' :: cs) =
      match skipSpace cs with
      | ']' :: rest => some (array [], rest)
      | rest => (readItems depth rest).map fun (items, rest) => (array items, rest) := by
  rw [readValue, skip_solid (by decide)]
  rfl

theorem value_brace (depth : Nat) (cs : List Char) :
    readValue (depth + 1) ('\x7b' :: cs) =
      match skipSpace cs with
      | '\x7d' :: rest => some (object [], rest)
      | rest => (readMembers depth rest).map fun (members, rest) => (object members, rest) := by
  rw [readValue, skip_solid (by decide)]
  rfl

theorem value_items {depth : Nat} {cs : List Char} (filled : ∀ tail, skipSpace cs ≠ ']' :: tail) :
    readValue (depth + 1) ('[' :: cs) = (readItems depth cs).map fun (items, rest) => (array items, rest) := by
  rw [value_bracket]
  split
  case h_1 closed => exact absurd closed (filled _)
  case h_2 => rw [items_skipped]

theorem value_members {depth : Nat} {cs : List Char} (filled : ∀ tail, skipSpace cs ≠ '\x7d' :: tail) :
    readValue (depth + 1) ('\x7b' :: cs) =
      (readMembers depth cs).map fun (members, rest) => (object members, rest) := by
  rw [value_brace]
  split
  case h_1 closed => exact absurd closed (filled _)
  case h_2 => rw [members_skipped]

theorem written_starts {text : List Char} {j : Json} (written : Written text j) :
    ∃ c tail, text = c :: tail ∧ c ∉ spaces ∧ c ≠ ']' := by
  cases written with
  | number numeral =>
      obtain ⟨c, tail, rfl, starts⟩ := numeral_starts numeral
      have other : c ∉ [']'] := numeral_outside starts (by simp)
      exact ⟨c, tail, rfl, numeral_outside starts (by simp [spaces]), List.ne_of_not_mem_cons other⟩
  | text quoted => cases quoted <;> exact ⟨'"', _, rfl, by decide, by decide⟩
  | null | true | false | emptyArray | array | emptyObject | object => exact ⟨_, _, rfl, by decide, by decide⟩

theorem padded_starts {text : List Char} {j : Json} (padded : Padded text j) (rest : List Char) :
    ∃ c tail, skipSpace (text ++ rest) = c :: tail ∧ c ≠ ']' := by
  obtain ⟨first, written, last⟩ := padded
  obtain ⟨c, tail, rfl, solid, unclosed⟩ := written_starts written
  rw [List.append_assoc, skip_space first, List.append_assoc, List.cons_append, skip_solid solid]
  exact ⟨c, _, rfl, unclosed⟩

theorem items_open {text : List Char} {items : List Json} (listed : ItemsWritten text items) (rest tail : List Char) :
    skipSpace (text ++ rest) ≠ ']' :: tail := by
  cases listed with
  | last padded =>
      obtain ⟨c, left, starts, other⟩ := padded_starts padded rest
      rw [starts]
      exact fun same => other (List.cons.inj same).1
  | @more cs others _ _ padded =>
      obtain ⟨c, left, starts, other⟩ := padded_starts padded (',' :: others ++ rest)
      rw [List.append_assoc, starts]
      exact fun same => other (List.cons.inj same).1

theorem quoted_starts {text : List Char} {t : Option String} (written : QuotedWritten text t) :
    ∃ tail, text = '"' :: tail := by
  cases written <;> exact ⟨_, rfl⟩

theorem members_open {text : List Char} {members : List (Option String × Json)}
    (listed : MembersWritten text members) (rest tail : List Char) :
    skipSpace (text ++ rest) ≠ '\x7d' :: tail := by
  cases listed with
  | last first named | more first named =>
      obtain ⟨_, rfl⟩ := quoted_starts named
      rw [List.append_assoc, skip_space first, List.cons_append, List.cons_append, skip_solid (by decide)]
      exact fun same => absurd (List.cons.inj same).1 (by decide)

theorem ends_space {before rest : List Char} (blank : Space before) (ends : Ends rest) : Ends (before ++ rest) := by
  cases before with
  | nil => exact ends
  | cons c before =>
      rintro _ _ ⟨⟩
      have unmarked : ∀ d ∈ spaces, d.isDigit = false ∧ d ≠ '.' ∧ d ≠ 'e' ∧ d ≠ 'E' := by simp [spaces]
      exact unmarked c (blank c List.mem_cons_self)

theorem ends_mark {c : Char} {rest : List Char} (mark : c ∈ [',', ']', '\x7d']) : Ends (c :: rest) := by
  rintro _ _ ⟨⟩
  have unmarked : ∀ d ∈ [',', ']', '\x7d'], d.isDigit = false ∧ d ≠ '.' ∧ d ≠ 'e' ∧ d ≠ 'E' := by simp
  exact unmarked c mark

def memberEnd (depth : Nat) (member : Option String × Json) (cs : List Char) :
    Option (List (Option String × Json) × List Char) :=
  match skipSpace cs with
  | '\x7d' :: rest => some ([member], rest)
  | ',' :: rest => (readMembers depth rest).map fun (members, rest) => (member :: members, rest)
  | _ => none

theorem read_member {depth : Nat} {before quoted gap cs left : List Char} {name : Option String} {j : Json}
    (first : Space before) (named : QuotedWritten quoted name) (blank : Space gap)
    (held : readValue depth cs = some (j, left)) :
    readMembers (depth + 1) (before ++ (quoted ++ (gap ++ ':' :: cs))) = memberEnd depth (name, j) left := by
  obtain ⟨inner, opened, read⟩ := read_quoted named (gap ++ ':' :: cs)
  rw [readMembers, skip_space first, opened, skip_solid (by decide)]
  split
  case h_1 same =>
    cases same
    simp only [read, Option.bind_eq_bind, Option.bind_some, skip_space blank]
    rw [skip_solid (by decide)]
    split
    case h_1 same =>
      cases same
      simp only [held, Option.bind_some, memberEnd, Option.map_eq_bind]
      rfl
    case h_2 other => exact absurd rfl (other cs)
  case h_2 other => exact absurd rfl (other inner)

-- Twice the length is depth enough: from a value to a value in it there are two calls, or one more for each item in
-- between, and every call but the first has a character less to read.
mutual
theorem read_value (depth : Nat) {text rest : List Char} {j : Json} (padded : Padded text j) (ends : Ends rest)
    (enough : 2 * text.length ≤ depth) :
    ∃ left, readValue depth (text ++ rest) = some (j, left) ∧ skipSpace left = skipSpace rest := by
  obtain @⟨before, cs, after, _, first, written, last⟩ := padded
  refine ⟨after ++ rest, ?_, skip_space last⟩
  have ends := ends_space last ends
  obtain ⟨c, tail, opens, _⟩ := written_starts written
  cases depth with
  | zero => simp [opens] at enough
  | succ depth =>
      rw [← value_skipped, List.append_assoc, skip_space first, value_skipped, List.append_assoc]
      simp only [List.length_append] at enough
      generalize after ++ rest = rest at ends
      cases written with
      | null | true | false => rfl
      | number numeral =>
          obtain ⟨c, tail, rfl, starts⟩ := numeral_starts numeral
          rw [List.cons_append, value_numeral starts, ← List.cons_append, read_numeral numeral ends]
          rfl
      | text quoted =>
          obtain ⟨inner, opened, read⟩ := read_quoted quoted rest
          rw [opened, value_quoted, read]
          rfl
      | emptyArray blank =>
          rw [List.cons_append, List.append_assoc, value_bracket, skip_space blank]
          rfl
      | array listed =>
          simp only [List.length_cons, List.length_append] at enough
          rw [List.cons_append, List.append_assoc, value_items (items_open listed _), List.singleton_append,
            read_items depth listed rest (by omega)]
          rfl
      | emptyObject blank =>
          rw [List.cons_append, List.append_assoc, value_brace, skip_space blank]
          rfl
      | object listed =>
          simp only [List.length_cons, List.length_append] at enough
          rw [List.cons_append, List.append_assoc, value_members (members_open listed _), List.singleton_append,
            read_members depth listed rest (by omega)]
          rfl

theorem read_items (depth : Nat) {text : List Char} {items : List Json} (listed : ItemsWritten text items)
    (rest : List Char) (enough : 2 * text.length + 1 ≤ depth) :
    readItems depth (text ++ ']' :: rest) = some (items, rest) := by
  cases depth with
  | zero => simp at enough
  | succ depth =>
      rw [readItems]
      cases listed with
      | last padded =>
          have ends : Ends (']' :: rest) := ends_mark (by simp)
          obtain ⟨left, read, closed⟩ := read_value depth padded ends (by omega)
          simp only [read, Option.bind_eq_bind, Option.bind_some, closed]
          rfl
      | @more cs others item items padded listed =>
          simp only [List.length_append, List.length_cons] at enough
          have ends : Ends (',' :: (others ++ ']' :: rest)) := ends_mark (by simp)
          obtain ⟨left, read, parted⟩ := read_value depth padded ends (by omega)
          rw [List.append_assoc, List.cons_append]
          simp only [read, Option.bind_eq_bind, Option.bind_some, parted]
          have later := read_items depth listed rest (by omega)
          exact congrArg (·.bind fun x => some (item :: x.1, x.2)) later

theorem read_members (depth : Nat) {text : List Char} {members : List (Option String × Json)}
    (listed : MembersWritten text members) (rest : List Char) (enough : 2 * text.length + 1 ≤ depth) :
    readMembers depth (text ++ '\x7d' :: rest) = some (members, rest) := by
  cases depth with
  | zero => simp at enough
  | succ depth =>
      cases listed with
      | @last before quoted gap cs name item first named blank padded =>
          simp only [List.length_append, List.length_cons] at enough
          have ends : Ends ('\x7d' :: rest) := ends_mark (by simp)
          obtain ⟨left, read, closed⟩ := read_value depth padded ends (by omega)
          have member := read_member first named blank read
          simp only [List.append_assoc, List.cons_append] at member ⊢
          rw [member, memberEnd, closed]
          rfl
      | @more before quoted gap cs others name item members first named blank padded listed =>
          simp only [List.length_append, List.length_cons] at enough
          have ends : Ends (',' :: (others ++ '\x7d' :: rest)) := ends_mark (by simp)
          obtain ⟨left, read, parted⟩ := read_value depth padded ends (by omega)
          have later := read_members depth listed rest (by omega)
          have member := read_member first named blank read
          simp only [List.append_assoc, List.cons_append] at member ⊢
          rw [member, memberEnd, parted]
          exact congrArg (·.map fun x => ((name, item) :: x.1, x.2)) later
end

-- A text holds just the document that it writes between its spaces.
theorem parse_written {source : String} {j : Json} : parse source = some j ↔ Padded source.toList j := by
  constructor
  · intro parsed
    obtain ⟨⟨value, rest⟩, read, parsed⟩ := Option.bind_eq_some_iff.mp parsed
    obtain ⟨text, whole, padded⟩ := value_read read
    dsimp only at parsed
    split_ifs at parsed with finished
    cases parsed
    rw [whole, finished, List.append_nil]
    exact padded
  · intro padded
    have ends : Ends [] := nofun
    obtain ⟨left, read, finished⟩ := read_value (2 * source.toList.length + 2) padded ends (by omega)
    rw [List.append_nil] at read
    rw [parse, read]
    exact if_pos finished

end LandmarkMap.Json
