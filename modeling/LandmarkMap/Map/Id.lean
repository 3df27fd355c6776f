set_option autoImplicit false

/-!
Identifiers of map elements: 64-bit numbers, one kind apart from the other. The largest number names
nothing and is the default.
-/

namespace LandmarkMap

inductive ElementKind where
  | mission
  | vertex
  | landmark

structure Id (kind : ElementKind) where
  value : UInt64
deriving DecidableEq, Repr

abbrev MissionId := Id .mission
abbrev VertexId := Id .vertex
abbrev LandmarkId := Id .landmark

namespace Id

variable {kind : ElementKind}

def invalid : Id kind := ⟨0xffffffffffffffff⟩

instance : Inhabited (Id kind) := ⟨invalid⟩

def isValid (id : Id kind) : Bool := id != invalid

def ofNat (n : Nat) : Id kind := ⟨UInt64.ofNat n⟩

def precedes (a b : Id kind) : Bool := a.value ≤ b.value

def text (id : Id kind) : String :=
  let digits := Nat.toDigits 16 id.value.toNat
  String.ofList (List.replicate (16 - digits.length) '0' ++ digits)

def sort (ids : List (Id kind)) : List (Id kind) := ids.mergeSort precedes

end Id

end LandmarkMap
