import LandmarkMap.Json.Value

set_option autoImplicit false

/-! Writing JSON documents. -/

namespace LandmarkMap

/-- Up to sixteen places before the point, and up to four zeros after it, are written out with at
least one digit of fraction; anything else has an exponent. -/
def Decimal.compact (d : Decimal) : List Char :=
  let digits := d.digits
  let point := d.pointAfter
  if 0 < point ∧ point ≤ 16 then
    if digits.length ≤ point.toNat then d.positional ++ ['.', '0'] else d.positional
  else if -5 < point ∧ point ≤ 0 then d.positional
  else
    let exponent := (toString (point - 1)).toList
    match digits with
    | [digit] => digit :: 'e' :: exponent
    | digit :: rest => digit :: '.' :: (rest ++ 'e' :: exponent)
    | [] => []

def Numeral.render : Numeral → List Char
  | .integer negative m => (if negative then ['-'] else []) ++ Nat.toDigits 10 m
  | .decimal negative d _ => (if negative then ['-'] else []) ++ d.compact

namespace Json

def escapeChar (c : Char) : List Char :=
  if c = '"' then ['\\', '"']
  else if c = '\\' then ['\\', '\\']
  else if c = '\n' then ['\\', 'n']
  else if c = '\r' then ['\\', 'r']
  else if c = '\t' then ['\\', 't']
  else if c = '\x08' then ['\\', 'b']
  else if c = '\x0c' then ['\\', 'f']
  else if c.toNat < 32 then
    let digits := Nat.toDigits 16 c.toNat
    '\\' :: 'u' :: (List.replicate (4 - digits.length) '0' ++ digits)
  else [c]

def quote (value : Option String) : List Char :=
  '"' :: ((value.getD "").toList.flatMap escapeChar ++ ['"'])

mutual
def render : Json → List Char
  | null => ['n', 'u', 'l', 'l']
  | bool true => ['t', 'r', 'u', 'e']
  | bool false => ['f', 'a', 'l', 's', 'e']
  | number n => n.render
  | text value => quote value
  | array items => '[' :: (renderItems items ++ [']'])
  | object members => '\x7b' :: (renderMembers members ++ ['\x7d'])

def renderItems : List Json → List Char
  | [] => []
  | [item] => render item
  | item :: rest => render item ++ ',' :: renderItems rest

def renderMembers : List (Option String × Json) → List Char
  | [] => []
  | [(name, value)] => quote name ++ ':' :: render value
  | (name, value) :: rest => quote name ++ ':' :: (render value ++ ',' :: renderMembers rest)
end

end Json

end LandmarkMap
