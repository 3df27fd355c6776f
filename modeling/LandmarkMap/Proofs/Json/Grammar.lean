import LandmarkMap.Json.Parser

set_option autoImplicit false

namespace LandmarkMap.Json

def spaces : List Char := [' ', '\n', '\t', '\r']

def Space (cs : List Char) : Prop := ∀ c ∈ cs, c ∈ spaces

def lowerDigits : List Char :=
  ['0', '1', '2', '3', '4', '5', '6', '7', '8', '9', 'a', 'b', 'c', 'd', 'e', 'f']

def upperDigits : List Char :=
  ['0', '1', '2', '3', '4', '5', '6', '7', '8', '9', 'A', 'B', 'C', 'D', 'E', 'F']

def HexDigit (c : Char) (value : Nat) : Prop := lowerDigits[value]? = some c ∨ upperDigits[value]? = some c

def shortEscapes : List (Char × Char) :=
  [('"', '"'), ('\\', '\\'), ('/', '/'), ('b', '\x08'), ('f', '\x0c'), ('n', '\n'), ('r', '\r'), ('t', '\t')]

-- What stands between quotes, and the units it names: a character stands for its code, and four hexadecimal digits
-- may stand for half of a surrogate pair.
inductive UnitsWritten : List Char → List Nat → Prop
  | done : UnitsWritten [] []
  | plain {c : Char} {cs : List Char} {units : List Nat} (printable : 32 ≤ c.toNat) (unquoted : c ≠ '"')
      (bare : c ≠ '\\') (rest : UnitsWritten cs units) : UnitsWritten (c :: cs) (c.toNat :: units)
  | short {e c : Char} {cs : List Char} {units : List Nat} (named : (e, c) ∈ shortEscapes)
      (rest : UnitsWritten cs units) : UnitsWritten ('\\' :: e :: cs) (c.toNat :: units)
  | hex {a b c d : Char} {w x y z : Nat} {cs : List Char} {units : List Nat} (first : HexDigit a w)
      (second : HexDigit b x) (third : HexDigit c y) (fourth : HexDigit d z) (rest : UnitsWritten cs units) :
      UnitsWritten ('\\' :: 'u' :: a :: b :: c :: d :: cs) ((((w * 16 + x) * 16 + y) * 16 + z) :: units)

-- Two halves next to each other are one character.
inductive Joined : List Nat → List Char → Prop
  | done : Joined [] []
  | whole {unit : Nat} {units : List Nat} {cs : List Char} (alone : unit < 0xd800 ∨ 0xe000 ≤ unit)
      (rest : Joined units cs) : Joined (unit :: units) (Char.ofNat unit :: cs)
  | pair {high low : Nat} {units : List Nat} {cs : List Char} (leads : 0xd800 ≤ high ∧ high < 0xdc00)
      (trails : 0xdc00 ≤ low ∧ low < 0xe000) (rest : Joined units cs) :
      Joined (high :: low :: units) (Char.ofNat (0x10000 + (high - 0xd800) * 0x400 + (low - 0xdc00)) :: cs)

-- A half that stands alone leaves no text.
inductive QuotedWritten : List Char → Option String → Prop
  | text {cs chars : List Char} {units : List Nat} (body : UnitsWritten cs units) (joined : Joined units chars) :
      QuotedWritten ('"' :: (cs ++ ['"'])) (some (String.ofList chars))
  | unpaired {cs : List Char} {units : List Nat} (body : UnitsWritten cs units) (apart : ∀ chars, ¬Joined units chars) :
      QuotedWritten ('"' :: (cs ++ ['"'])) none

def Digits (ds : List Char) : Prop := ds ≠ [] ∧ ∀ d ∈ ds, d.isDigit = true

inductive FractionWritten : List Char → List Char → Prop
  | absent : FractionWritten [] []
  | digits {ds : List Char} (given : Digits ds) : FractionWritten ('.' :: ds) ds

inductive SignWritten : List Char → Bool → Prop
  | absent : SignWritten [] false
  | plus : SignWritten ['+'] false
  | minus : SignWritten ['-'] true

inductive ExponentWritten : List Char → Option Int → Prop
  | absent : ExponentWritten [] none
  | digits {mark : Char} {sign ds : List Char} {negative : Bool} (marked : mark = 'e' ∨ mark = 'E')
      (signed : SignWritten sign negative) (given : Digits ds) :
      ExponentWritten (mark :: (sign ++ ds))
        (some (if negative then -(digitsValue ds : Int) else (digitsValue ds : Int)))

-- What has neither a fraction nor an exponent is an integer.
inductive Valued (negative : Bool) (whole : List Char) : List Char → Option Int → Numeral → Prop
  | integer : Valued negative whole [] none (.integer negative (digitsValue whole))
  | decimal {ds : List Char} {e : Option Int} (either : ds ≠ [] ∨ e ≠ none) :
      Valued negative whole ds e
        (.decimal negative ⟨digitsValue (whole ++ ds), e.getD 0 - ds.length⟩ ds.length)

inductive MagnitudeWritten (negative : Bool) : List Char → Numeral → Prop
  | parts {whole fraction ds exponent : List Char} {e : Option Int} {n : Numeral} (given : Digits whole)
      (needed : whole.head? = some '0' → whole = ['0']) (broken : FractionWritten fraction ds)
      (scaled : ExponentWritten exponent e) (valued : Valued negative whole ds e n) :
      MagnitudeWritten negative (whole ++ (fraction ++ exponent)) n

inductive NumeralWritten : List Char → Numeral → Prop
  | plain {cs : List Char} {n : Numeral} (magnitude : MagnitudeWritten false cs n) : NumeralWritten cs n
  | negative {cs : List Char} {n : Numeral} (magnitude : MagnitudeWritten true cs n) : NumeralWritten ('-' :: cs) n

mutual
inductive Written : List Char → Json → Prop
  | null : Written ['n', 'u', 'l', 'l'] .null
  | true : Written ['t', 'r', 'u', 'e'] (.bool true)
  | false : Written ['f', 'a', 'l', 's', 'e'] (.bool false)
  | number {cs : List Char} {n : Numeral} (numeral : NumeralWritten cs n) : Written cs (.number n)
  | text {cs : List Char} {t : Option String} (quoted : QuotedWritten cs t) : Written cs (.text t)
  | emptyArray {space : List Char} (blank : Space space) : Written ('[' :: (space ++ [']'])) (.array [])
  | array {cs : List Char} {items : List Json} (listed : ItemsWritten cs items) :
      Written ('[' :: (cs ++ [']'])) (.array items)
  | emptyObject {space : List Char} (blank : Space space) : Written ('\x7b' :: (space ++ ['\x7d'])) (.object [])
  | object {cs : List Char} {members : List (Option String × Json)} (listed : MembersWritten cs members) :
      Written ('\x7b' :: (cs ++ ['\x7d'])) (.object members)

inductive Padded : List Char → Json → Prop
  | between {before cs after : List Char} {j : Json} (first : Space before) (value : Written cs j)
      (last : Space after) : Padded (before ++ (cs ++ after)) j

inductive ItemsWritten : List Char → List Json → Prop
  | last {cs : List Char} {item : Json} (value : Padded cs item) : ItemsWritten cs [item]
  | more {cs rest : List Char} {item : Json} {items : List Json} (value : Padded cs item)
      (others : ItemsWritten rest items) : ItemsWritten (cs ++ ',' :: rest) (item :: items)

inductive MembersWritten : List Char → List (Option String × Json) → Prop
  | last {before quoted gap cs : List Char} {name : Option String} {item : Json} (first : Space before)
      (named : QuotedWritten quoted name) (blank : Space gap) (value : Padded cs item) :
      MembersWritten (before ++ (quoted ++ (gap ++ ':' :: cs))) [(name, item)]
  | more {before quoted gap cs rest : List Char} {name : Option String} {item : Json}
      {members : List (Option String × Json)} (first : Space before) (named : QuotedWritten quoted name)
      (blank : Space gap) (value : Padded cs item) (others : MembersWritten rest members) :
      MembersWritten (before ++ (quoted ++ (gap ++ ':' :: (cs ++ ',' :: rest)))) ((name, item) :: members)
end

end LandmarkMap.Json
