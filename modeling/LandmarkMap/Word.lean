import LandmarkMap.Failure

set_option autoImplicit false

/-!
Arithmetic on words of 64 bits, and room for lists in the address space. A result that does not fit
is a fault.
-/

namespace LandmarkMap.Word

variable {α : Type}

def add (a b : Nat) : Except (Fault α) Nat :=
  if a + b < UInt64.size then .ok (a + b) else .error .additionOverflow

def mul (a b : Nat) : Except (Fault α) Nat :=
  if a * b < UInt64.size then .ok (a * b) else .error .multiplicationOverflow

def signed (n : Int) (overflow : Fault α) : Except (Fault α) Int :=
  if Int64.minValue.toInt ≤ n ∧ n ≤ Int64.maxValue.toInt then .ok n else .error overflow

def addSigned (a b : Int) : Except (Fault α) Int := signed (a + b) .additionOverflow

def subSigned (a b : Int) : Except (Fault α) Int := signed (a - b) .subtractionOverflow

def mulSigned (a b : Int) : Except (Fault α) Int := signed (a * b) .multiplicationOverflow

/-- How many bytes a list can have: half of the addresses, up to a whole word. -/
def listBytes : Nat := 0x7ffffffffffffff8

def reserve (items size : Nat) : Except (Fault α) Unit :=
  require (items * size ≤ listBytes) .listTooLong

/-- How many entries a table of four words each can have: seven in eight of the slots, whose number
is a power of two. -/
def tableEntries : Nat := 0x1c0000000000000

def reserveTable (entries : Nat) : Except (Fault α) Unit :=
  require (entries ≤ tableEntries) .tableTooLarge

end LandmarkMap.Word
