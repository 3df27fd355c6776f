import LandmarkMap.Json.Value

set_option autoImplicit false

/-!
Reading JSON documents. A reader takes the characters that are left and returns what it read with
the rest, or nothing if no reading exists; the nesting of values is bounded by the length of the
text.
-/

namespace LandmarkMap.Json

def isSpace (c : Char) : Bool := c = ' ' || c = '\n' || c = '\t' || c = '\r'

def skipSpace (cs : List Char) : List Char := cs.dropWhile isSpace

def hexDigit? (c : Char) : Option Nat :=
  if '0' ≤ c ∧ c ≤ '9' then some (c.toNat - 48)
  else if 'a' ≤ c ∧ c ≤ 'f' then some (c.toNat - 87)
  else if 'A' ≤ c ∧ c ≤ 'F' then some (c.toNat - 55)
  else none

def hexUnit? (a b c d : Char) : Option Nat := do
  let a ← hexDigit? a
  let b ← hexDigit? b
  let c ← hexDigit? c
  let d ← hexDigit? d
  return ((a * 16 + b) * 16 + c) * 16 + d

def shortEscape? : Char → Option Char
  | '"' => some '"'
  | '\\' => some '\\'
  | '/' => some '/'
  | 'b' => some '\x08'
  | 'f' => some '\x0c'
  | 'n' => some '\n'
  | 'r' => some '\r'
  | 't' => some '\t'
  | _ => none

def readUnits : List Char → Option (List Nat × List Char)
  | [] => none
  | '"' :: rest => some ([], rest)
  | '\\' :: 'u' :: a :: b :: c :: d :: rest => do
      let unit ← hexUnit? a b c d
      let (units, left) ← readUnits rest
      return (unit :: units, left)
  | '\\' :: e :: rest => do
      let c ← shortEscape? e
      let (units, left) ← readUnits rest
      return (c.toNat :: units, left)
  | c :: rest => do
      if c.toNat < 32 ∨ c = '\\' then none
      else
        let (units, left) ← readUnits rest
        return (c.toNat :: units, left)

/-- Joins surrogate pairs; a half that stands alone leaves no text. -/
def joinUnits : List Nat → Option (List Char)
  | [] => some []
  | unit :: rest =>
      if 0xd800 ≤ unit ∧ unit < 0xdc00 then
        match rest with
        | low :: rest =>
            if 0xdc00 ≤ low ∧ low < 0xe000 then
              (joinUnits rest).map
                (Char.ofNat (0x10000 + (unit - 0xd800) * 0x400 + (low - 0xdc00)) :: ·)
            else none
        | [] => none
      else if 0xdc00 ≤ unit ∧ unit < 0xe000 then none
      else (joinUnits rest).map (Char.ofNat unit :: ·)

def readText (cs : List Char) : Option (Option String × List Char) := do
  let (units, rest) ← readUnits cs
  return ((joinUnits units).map String.ofList, rest)

def digitsValue (cs : List Char) : Nat := cs.foldl (fun n c => n * 10 + (c.toNat - 48)) 0

def readDigits (cs : List Char) : List Char × List Char :=
  (cs.takeWhile Char.isDigit, cs.dropWhile Char.isDigit)

def readFraction : List Char → Option (List Char × List Char)
  | '.' :: cs =>
      let (digits, rest) := readDigits cs
      if digits = [] then none else some (digits, rest)
  | cs => some ([], cs)

def readExponent : List Char → Option (Option Int × List Char)
  | c :: cs =>
      if c = 'e' ∨ c = 'E' then
        let (negative, cs) := match cs with
          | '+' :: cs => (false, cs)
          | '-' :: cs => (true, cs)
          | cs => (false, cs)
        let (digits, rest) := readDigits cs
        if digits = [] then none
        else
          let size : Int := digitsValue digits
          some (some (if negative then -size else size), rest)
      else some (none, c :: cs)
  | [] => some (none, [])

def readMagnitude (negative : Bool) (cs : List Char) : Option (Numeral × List Char) := do
  let (whole, rest) := readDigits cs
  if whole = [] ∨ (whole.head? = some '0' ∧ 1 < whole.length) then none
  else
    let (fraction, rest) ← readFraction rest
    let (exponent, rest) ← readExponent rest
    let numeral := match fraction, exponent with
      | [], none => Numeral.integer negative (digitsValue whole)
      | fraction, exponent =>
          Numeral.decimal negative
            ⟨digitsValue (whole ++ fraction), exponent.getD 0 - fraction.length⟩ fraction.length
    return (numeral, rest)

def readNumeral : List Char → Option (Numeral × List Char)
  | '-' :: cs => readMagnitude true cs
  | cs => readMagnitude false cs

mutual
/-- A value, of which at most `depth` readers call one another. -/
def readValue : (depth : Nat) → List Char → Option (Json × List Char)
  | 0, _ => none
  | depth + 1, cs =>
      match skipSpace cs with
      | 'n' :: 'u' :: 'l' :: 'l' :: rest => some (null, rest)
      | 't' :: 'r' :: 'u' :: 'e' :: rest => some (bool true, rest)
      | 'f' :: 'a' :: 'l' :: 's' :: 'e' :: rest => some (bool false, rest)
      | '"' :: rest => (readText rest).map fun (value, rest) => (text value, rest)
      | '[' :: rest =>
          match skipSpace rest with
          | ']' :: rest => some (array [], rest)
          | rest => (readItems depth rest).map fun (items, rest) => (array items, rest)
      | '\x7b' :: rest =>
          match skipSpace rest with
          | '\x7d' :: rest => some (object [], rest)
          | rest => (readMembers depth rest).map fun (members, rest) => (object members, rest)
      | rest => (readNumeral rest).map fun (value, rest) => (number value, rest)

def readItems : (depth : Nat) → List Char → Option (List Json × List Char)
  | 0, _ => none
  | depth + 1, cs => do
      let (item, rest) ← readValue depth cs
      match skipSpace rest with
      | ']' :: rest => return ([item], rest)
      | ',' :: rest =>
          let (items, rest) ← readItems depth rest
          return (item :: items, rest)
      | _ => none

def readMembers : (depth : Nat) → List Char → Option (List (Option String × Json) × List Char)
  | 0, _ => none
  | depth + 1, cs => do
      let '"' :: rest := skipSpace cs | none
      let (name, rest) ← readText rest
      let ':' :: rest := skipSpace rest | none
      let (value, rest) ← readValue depth rest
      match skipSpace rest with
      | '\x7d' :: rest => return ([(name, value)], rest)
      | ',' :: rest =>
          let (members, rest) ← readMembers depth rest
          return ((name, value) :: members, rest)
      | _ => none
end

def parse (source : String) : Option Json := do
  let cs := source.toList
  let (value, rest) ← readValue (2 * cs.length + 2) cs
  if skipSpace rest = [] then some value else none

end LandmarkMap.Json
