import Mathlib
import LandmarkMap.Proofs.Json.Grammar

set_option autoImplicit false

namespace LandmarkMap.Json

theorem space_iff {c : Char} : isSpace c = true ↔ c ∈ spaces := by
  simp [isSpace, spaces, or_assoc]

theorem skip_space {before cs : List Char} (blank : Space before) : skipSpace (before ++ cs) = skipSpace cs :=
  List.dropWhile_append_of_pos fun c inside => space_iff.mpr (blank c inside)

theorem skip_solid {c : Char} {cs : List Char} (solid : c ∉ spaces) :
    skipSpace (c :: cs) = c :: cs :=
  List.dropWhile_cons_of_neg (mt space_iff.mp solid)

theorem skip_splits (cs : List Char) : ∃ before, Space before ∧ cs = before ++ skipSpace cs :=
  ⟨cs.takeWhile isSpace, fun _ inside => space_iff.mp (List.mem_takeWhile_imp inside),
    List.takeWhile_append_dropWhile.symm⟩

theorem hex_digit {c : Char} {value : Nat} : hexDigit? c = some value ↔ HexDigit c value := by
  constructor
  · intro read
    have decimals : ∀ v < 10, lowerDigits[v]? = some (Char.ofNat (v + 48)) := by decide
    have lowers : ∀ v < 6, lowerDigits[v + 10]? = some (Char.ofNat (v + 97)) := by decide
    have uppers : ∀ v < 6, upperDigits[v + 10]? = some (Char.ofNat (v + 65)) := by decide
    unfold hexDigit? at read
    split_ifs at read with decimal lower upper
    · have low : 48 ≤ c.toNat := decimal.1
      have high : c.toNat ≤ 57 := decimal.2
      have here := decimals (c.toNat - 48) (by omega)
      rw [Nat.sub_add_cancel low, Char.ofNat_toNat, Option.some.inj read] at here
      exact .inl here
    · have low : 97 ≤ c.toNat := lower.1
      have high : c.toNat ≤ 102 := lower.2
      have place : c.toNat - 97 + 10 = c.toNat - 87 := by omega
      have here := lowers (c.toNat - 97) (by omega)
      rw [Nat.sub_add_cancel low, Char.ofNat_toNat, place, Option.some.inj read] at here
      exact .inl here
    · have low : 65 ≤ c.toNat := upper.1
      have high : c.toNat ≤ 70 := upper.2
      have place : c.toNat - 65 + 10 = c.toNat - 55 := by omega
      have here := uppers (c.toNat - 65) (by omega)
      rw [Nat.sub_add_cancel low, Char.ofNat_toNat, place, Option.some.inj read] at here
      exact .inr here
  · have lowers : lowerDigits.map hexDigit? = (List.range 16).map some := by decide +kernel
    have uppers : upperDigits.map hexDigit? = (List.range 16).map some := by decide +kernel
    have found {digits : List Char} (all : digits.map hexDigit? = (List.range 16).map some)
        (listed : digits[value]? = some c) : hexDigit? c = some value := by
      have here := congrArg (·[value]?) all
      simp only [List.getElem?_map, listed, Option.map_some] at here
      obtain ⟨v, place, read⟩ := Option.map_eq_some_iff.mp here.symm
      rw [← read, (List.getElem?_eq_some_iff.mp place).2.symm, List.getElem_range]
    rintro (listed | listed)
    · exact found lowers listed
    · exact found uppers listed

theorem hex_unit {a b c d : Char} {unit : Nat} :
    hexUnit? a b c d = some unit ↔
      ∃ w x y z, HexDigit a w ∧ HexDigit b x ∧ HexDigit c y ∧ HexDigit d z ∧
        ((w * 16 + x) * 16 + y) * 16 + z = unit := by
  simp only [hexUnit?, Option.bind_eq_bind, Option.bind_eq_some_iff, Option.pure_def, Option.some.injEq, hex_digit]
  constructor
  · rintro ⟨w, first, x, second, y, third, z, fourth, sum⟩
    exact ⟨w, x, y, z, first, second, third, fourth, sum⟩
  · rintro ⟨w, x, y, z, first, second, third, fourth, sum⟩
    exact ⟨w, first, x, second, y, third, z, fourth, sum⟩

theorem short_escape {e c : Char} : shortEscape? e = some c ↔ (e, c) ∈ shortEscapes := by
  constructor
  · intro named
    unfold shortEscape? at named
    split at named <;> first | (cases named; decide) | cases named
  · intro listed
    simp only [shortEscapes, List.mem_cons, Prod.mk.injEq, List.not_mem_nil, or_false] at listed
    rcases listed with ⟨rfl, rfl⟩ | ⟨rfl, rfl⟩ | ⟨rfl, rfl⟩ | ⟨rfl, rfl⟩ | ⟨rfl, rfl⟩ | ⟨rfl, rfl⟩ | ⟨rfl, rfl⟩ |
      ⟨rfl, rfl⟩ <;> rfl

theorem read_units {text rest : List Char} {units : List Nat} (written : UnitsWritten text units) :
    readUnits (text ++ '"' :: rest) = some (units, rest) := by
  induction written with
  | done => simp [readUnits]
  | @plain c cs units printable unquoted bare _ ih =>
      have visible : ¬(c.toNat < 32 ∨ c = '\\') := by simp [Nat.not_lt.mpr printable, bare]
      rw [List.cons_append, readUnits, if_neg visible, ih]
      · rfl
      · exact unquoted
      · exact fun _ _ _ _ _ same _ => bare same
      · exact fun _ _ same _ => bare same
  | @short e c cs units named _ ih =>
      have named := short_escape.mpr named
      have other : e ≠ 'u' := by
        rintro rfl
        cases named
      rw [List.cons_append, List.cons_append, readUnits, named, ih]
      · rfl
      · exact fun _ _ _ _ _ same _ => other same
  | hex first second third fourth _ ih =>
      simp only [List.cons_append]
      rw [readUnits, hex_unit.mpr ⟨_, _, _, _, first, second, third, fourth, rfl⟩, ih]
      rfl

theorem units_read {cs rest : List Char} {units : List Nat} (read : readUnits cs = some (units, rest)) :
    ∃ text, cs = text ++ '"' :: rest ∧ UnitsWritten text units := by
  fun_induction readUnits cs generalizing units rest with
  | case1 => cases read
  | case2 =>
      cases read
      exact ⟨[], rfl, .done⟩
  | case3 a b c d tail ih =>
      obtain ⟨unit, named, read⟩ := Option.bind_eq_some_iff.mp read
      obtain ⟨⟨others, left⟩, later, read⟩ := Option.bind_eq_some_iff.mp read
      cases read
      obtain ⟨w, x, y, z, first, second, third, fourth, rfl⟩ := hex_unit.mp named
      obtain ⟨text, rfl, written⟩ := ih later
      exact ⟨_, rfl, .hex first second third fourth written⟩
  | case4 e tail _ ih =>
      obtain ⟨c, named, read⟩ := Option.bind_eq_some_iff.mp read
      obtain ⟨⟨others, left⟩, later, read⟩ := Option.bind_eq_some_iff.mp read
      cases read
      obtain ⟨text, rfl, written⟩ := ih later
      exact ⟨_, rfl, .short (short_escape.mp named) written⟩
  | case5 => cases read
  | case6 c tail unquoted _ _ plain ih =>
      obtain ⟨⟨others, left⟩, later, read⟩ := Option.bind_eq_some_iff.mp read
      cases read
      obtain ⟨text, rfl, written⟩ := ih later
      obtain ⟨printable, bare⟩ := not_or.mp plain
      exact ⟨_, rfl, .plain (Nat.not_lt.mp printable) unquoted bare written⟩

theorem join_units {units : List Nat} {chars : List Char} : joinUnits units = some chars ↔ Joined units chars := by
  constructor
  · intro joined
    fun_induction joinUnits units generalizing chars with
    | case1 =>
        cases joined
        exact .done
    | case2 high leads low rest trails ih =>
        obtain ⟨cs, later, rfl⟩ := Option.map_eq_some_iff.mp joined
        exact .pair leads trails (ih later)
    | case3 | case4 | case5 => cases joined
    | case6 unit rest notHigh notLow ih =>
        obtain ⟨cs, later, rfl⟩ := Option.map_eq_some_iff.mp joined
        exact .whole (by omega) (ih later)
  · intro joined
    induction joined with
    | done => rfl
    | @whole unit units cs alone _ ih =>
        have notHigh : ¬(0xd800 ≤ unit ∧ unit < 0xdc00) := by omega
        have notLow : ¬(0xdc00 ≤ unit ∧ unit < 0xe000) := by omega
        unfold joinUnits
        rw [if_neg notHigh, if_neg notLow, ih]
        rfl
    | pair leads trails _ ih =>
        unfold joinUnits
        simp only [if_pos leads, if_pos trails, ih, Option.map_some]

theorem read_quoted {text : List Char} {t : Option String} (written : QuotedWritten text t) (rest : List Char) :
    ∃ cs, text ++ rest = '"' :: cs ∧ readText cs = some (t, rest) := by
  have read {cs : List Char} {units : List Nat} (body : UnitsWritten cs units) :
      readText (cs ++ '"' :: rest) = some ((joinUnits units).map String.ofList, rest) := by
    rw [readText, read_units body]
    rfl
  obtain @⟨cs, _, _, body, joined⟩ | @⟨cs, _, body, apart⟩ := written
  · refine ⟨cs ++ '"' :: rest, by simp, ?_⟩
    rw [read body, join_units.mpr joined]
    rfl
  · refine ⟨cs ++ '"' :: rest, by simp, ?_⟩
    rw [read body, Option.eq_none_iff_forall_ne_some.mpr fun chars joined => apart chars (join_units.mp joined)]
    rfl

theorem quoted_read {cs rest : List Char} {t : Option String} (read : readText cs = some (t, rest)) :
    ∃ text, '"' :: cs = text ++ rest ∧ QuotedWritten text t := by
  obtain ⟨⟨units, left⟩, named, read⟩ := Option.bind_eq_some_iff.mp read
  cases read
  obtain ⟨text, rfl, body⟩ := units_read named
  refine ⟨'"' :: (text ++ ['"']), by simp, ?_⟩
  cases joined : joinUnits units with
  | some chars => exact .text body (join_units.mp joined)
  | none => exact .unpaired body fun chars written => by simp [join_units.mpr written] at joined

-- What follows a numeral does not go on with it.
def Ends (rest : List Char) : Prop :=
  ∀ c tail, rest = c :: tail → c.isDigit = false ∧ c ≠ '.' ∧ c ≠ 'e' ∧ c ≠ 'E'

def Undigited (rest : List Char) : Prop := ∀ c tail, rest = c :: tail → c.isDigit = false

theorem read_digits {ds rest : List Char} (given : Digits ds) (ends : Undigited rest) :
    readDigits (ds ++ rest) = (ds, rest) := by
  rw [readDigits, List.takeWhile_append_of_pos given.2, List.dropWhile_append_of_pos given.2]
  cases rest with
  | nil => simp
  | cons c tail => simp [ends c tail rfl]

theorem digits_read (cs : List Char) :
    cs = (readDigits cs).1 ++ (readDigits cs).2 ∧ ((readDigits cs).1 ≠ [] → Digits (readDigits cs).1) :=
  ⟨List.takeWhile_append_dropWhile.symm, fun filled => ⟨filled, fun _ inside => List.mem_takeWhile_imp inside⟩⟩

theorem read_fraction {text ds rest : List Char} (written : FractionWritten text ds) (ends : Undigited rest)
    (unbroken : ∀ tail, rest ≠ '.' :: tail) : readFraction (text ++ rest) = some (ds, rest) := by
  cases written with
  | absent =>
      rw [List.nil_append, readFraction]
      exact unbroken
  | digits given =>
      rw [List.cons_append, readFraction, read_digits given ends]
      exact if_neg given.1

theorem fraction_read {cs ds rest : List Char} (read : readFraction cs = some (ds, rest)) :
    ∃ text, cs = text ++ rest ∧ FractionWritten text ds := by
  unfold readFraction at read
  split at read
  · next cs =>
      obtain ⟨whole, given⟩ := digits_read cs
      split at read
      next digits left same =>
      rw [same] at whole given
      split_ifs at read with empty
      cases read
      exact ⟨'.' :: ds, by rw [whole]; rfl, .digits (given empty)⟩
  · cases read
    exact ⟨[], rfl, .absent⟩

theorem digit_other {d c : Char} (digit : d.isDigit = true) (other : c.isDigit = false) : d ≠ c := by
  rintro rfl
  cases digit.symm.trans other

def readSign : List Char → Bool × List Char
  | '+' :: cs => (false, cs)
  | '-' :: cs => (true, cs)
  | cs => (false, cs)

theorem exponent_signed (c : Char) (cs : List Char) :
    readExponent (c :: cs) =
      if c = 'e' ∨ c = 'E' then
        if (readDigits (readSign cs).2).1 = [] then none
        else
          some
            (some (if (readSign cs).1 then -(digitsValue (readDigits (readSign cs).2).1 : Int)
              else (digitsValue (readDigits (readSign cs).2).1 : Int)), (readDigits (readSign cs).2).2)
      else some (none, c :: cs) :=
  rfl

theorem read_sign {sign ds : List Char} {negative : Bool} (signed : SignWritten sign negative) (rest : List Char)
    (given : Digits ds) : readSign (sign ++ (ds ++ rest)) = (negative, ds ++ rest) := by
  obtain ⟨filled, all⟩ := given
  cases ds with
  | nil => exact absurd rfl filled
  | cons d ds =>
      have first := all d List.mem_cons_self
      cases signed with
      | plus | minus => rfl
      | absent =>
          rw [List.nil_append, List.cons_append, readSign]
          · rintro cs same
            exact digit_other first (by decide) (List.cons.inj same).1
          · rintro cs same
            exact digit_other first (by decide) (List.cons.inj same).1

theorem sign_read (cs : List Char) : ∃ sign, cs = sign ++ (readSign cs).2 ∧ SignWritten sign (readSign cs).1 := by
  unfold readSign
  split
  · exact ⟨['+'], rfl, .plus⟩
  · exact ⟨['-'], rfl, .minus⟩
  · exact ⟨[], rfl, .absent⟩

theorem read_exponent {text rest : List Char} {e : Option Int} (written : ExponentWritten text e) (ends : Ends rest) :
    readExponent (text ++ rest) = some (e, rest) := by
  cases written with
  | absent =>
      cases rest with
      | nil => rfl
      | cons c tail =>
          obtain ⟨_, _, small, large⟩ := ends c tail rfl
          rw [List.nil_append, exponent_signed, if_neg (not_or.mpr ⟨small, large⟩)]
  | digits marked signed given =>
      have undigited : Undigited rest := fun c tail same => (ends c tail same).1
      rw [List.cons_append, List.append_assoc, exponent_signed, if_pos marked, read_sign signed rest given,
        read_digits given undigited, if_neg given.1]

theorem exponent_read {cs rest : List Char} {e : Option Int} (read : readExponent cs = some (e, rest)) :
    ∃ text, cs = text ++ rest ∧ ExponentWritten text e := by
  cases cs with
  | nil =>
      cases read
      exact ⟨[], rfl, .absent⟩
  | cons mark cs =>
      rw [exponent_signed] at read
      by_cases marked : mark = 'e' ∨ mark = 'E'
      · rw [if_pos marked] at read
        obtain ⟨sign, whole, signed⟩ := sign_read cs
        obtain ⟨parts, given⟩ := digits_read (readSign cs).2
        by_cases empty : (readDigits (readSign cs).2).1 = []
        · rw [if_pos empty] at read
          cases read
        · rw [if_neg empty] at read
          cases read
          refine ⟨mark :: (sign ++ (readDigits (readSign cs).2).1), ?_, .digits marked signed (given empty)⟩
          rw [List.cons_append, List.append_assoc, ← parts, ← whole]
      · rw [if_neg marked] at read
        cases read
        exact ⟨[], rfl, .absent⟩

theorem needed_zero {whole : List Char} (filled : whole ≠ []) :
    ¬(whole = [] ∨ (whole.head? = some '0' ∧ 1 < whole.length)) ↔ (whole.head? = some '0' → whole = ['0']) := by
  cases whole with
  | nil => exact absurd rfl filled
  | cons c rest => cases rest <;> simp

theorem numeral_valued {negative : Bool} {whole ds : List Char} {e : Option Int} {n : Numeral} :
    (match ds, e with
      | [], none => Numeral.integer negative (digitsValue whole)
      | fraction, exponent =>
          Numeral.decimal negative ⟨digitsValue (whole ++ fraction), exponent.getD 0 - fraction.length⟩
            fraction.length) = n ↔
      Valued negative whole ds e n := by
  constructor
  · rintro rfl
    split
    · exact .integer
    · next other =>
        refine .decimal (not_and_or.mp fun both => other both.1 both.2)
  · rintro (_ | either)
    · rfl
    · split
      · simp at either
      · rfl

theorem scaled_starts {text rest : List Char} {e : Option Int} (written : ExponentWritten text e) (ends : Ends rest) :
    Undigited (text ++ rest) ∧ ∀ tail, text ++ rest ≠ '.' :: tail := by
  cases written with
  | absent => exact ⟨fun c tail same => (ends c tail same).1, fun tail same => (ends '.' tail same).2.1 rfl⟩
  | digits marked _ _ =>
      refine ⟨fun c tail same => ?_, fun tail same => ?_⟩
      · obtain ⟨rfl, _⟩ := List.cons.inj same
        rcases marked with rfl | rfl <;> rfl
      · obtain ⟨rfl, _⟩ := List.cons.inj same
        simp at marked

theorem broken_starts {text ds rest : List Char} (written : FractionWritten text ds) (ends : Undigited rest) :
    Undigited (text ++ rest) := by
  cases written with
  | absent => exact ends
  | digits _ =>
      intro c tail same
      obtain ⟨rfl, _⟩ := List.cons.inj same
      rfl

theorem read_magnitude {negative : Bool} {text rest : List Char} {n : Numeral}
    (written : MagnitudeWritten negative text n) (ends : Ends rest) :
    readMagnitude negative (text ++ rest) = some (n, rest) := by
  obtain ⟨given, needed, broken, scaled, valued⟩ := written
  obtain ⟨undigited, unbroken⟩ := scaled_starts scaled ends
  rw [List.append_assoc, List.append_assoc, readMagnitude, read_digits given (broken_starts broken undigited)]
  dsimp only
  rw [if_neg ((needed_zero given.1).mpr needed), read_fraction broken undigited unbroken]
  simp only [Option.bind_eq_bind, Option.bind_some, read_exponent scaled ends]
  exact congrArg (fun n => some (n, rest)) (numeral_valued.mpr valued)

theorem magnitude_read {negative : Bool} {cs rest : List Char} {n : Numeral}
    (read : readMagnitude negative cs = some (n, rest)) :
    ∃ text, cs = text ++ rest ∧ MagnitudeWritten negative text n := by
  obtain ⟨whole, given⟩ := digits_read cs
  unfold readMagnitude at read
  split at read
  next ds left same =>
  rw [same] at whole given
  split_ifs at read with empty
  obtain ⟨⟨fs, afterFraction⟩, broken, read⟩ := Option.bind_eq_some_iff.mp read
  obtain ⟨⟨e, afterExponent⟩, scaled, read⟩ := Option.bind_eq_some_iff.mp read
  obtain ⟨value, rfl⟩ := Prod.mk.inj (Option.some.inj read)
  obtain ⟨fraction, rfl, pointed⟩ := fraction_read broken
  obtain ⟨exponent, rfl, marked⟩ := exponent_read scaled
  have filled : ds ≠ [] := fun none => empty (.inl none)
  refine ⟨_, ?_, .parts (given filled) ((needed_zero filled).mp empty) pointed marked (numeral_valued.mp value)⟩
  rw [whole, List.append_assoc, List.append_assoc]

theorem magnitude_starts {negative : Bool} {text : List Char} {n : Numeral}
    (written : MagnitudeWritten negative text n) : ∃ d tail, text = d :: tail ∧ d.isDigit = true := by
  obtain @⟨whole, fraction, _, exponent, _, _, given, _⟩ := written
  obtain ⟨d, ds, rfl⟩ := List.exists_cons_of_ne_nil given.1
  exact ⟨d, ds ++ (fraction ++ exponent), rfl, given.2 d List.mem_cons_self⟩

theorem numeral_starts {text : List Char} {n : Numeral} (written : NumeralWritten text n) :
    ∃ c tail, text = c :: tail ∧ (c.isDigit = true ∨ c = '-') := by
  cases written with
  | plain magnitude =>
      obtain ⟨d, tail, rfl, digit⟩ := magnitude_starts magnitude
      exact ⟨d, tail, rfl, .inl digit⟩
  | negative _ => exact ⟨'-', _, rfl, .inr rfl⟩

theorem numeral_outside {c : Char} {others : List Char} (starts : c.isDigit = true ∨ c = '-')
    (apart : ∀ d ∈ others, d.isDigit = false ∧ d ≠ '-') : c ∉ others := fun inside =>
  starts.elim (fun digit => digit_other digit (apart c inside).1 rfl) (apart c inside).2

theorem read_numeral {text rest : List Char} {n : Numeral} (written : NumeralWritten text n) (ends : Ends rest) :
    readNumeral (text ++ rest) = some (n, rest) := by
  cases written with
  | negative magnitude => exact read_magnitude magnitude ends
  | plain magnitude =>
      obtain ⟨d, tail, rfl, digit⟩ := magnitude_starts magnitude
      rw [List.cons_append, readNumeral, ← List.cons_append]
      · exact read_magnitude magnitude ends
      · exact fun _ same => digit_other digit (by decide) (List.cons.inj same).1

theorem numeral_read {cs rest : List Char} {n : Numeral} (read : readNumeral cs = some (n, rest)) :
    ∃ text, cs = text ++ rest ∧ NumeralWritten text n := by
  unfold readNumeral at read
  split at read
  · obtain ⟨text, rfl, written⟩ := magnitude_read read
    exact ⟨_, rfl, .negative written⟩
  · obtain ⟨text, rfl, written⟩ := magnitude_read read
    exact ⟨_, rfl, .plain written⟩

end LandmarkMap.Json
