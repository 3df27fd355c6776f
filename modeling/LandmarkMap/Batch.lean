import LandmarkMap.Word
import LandmarkMap.Scalar

set_option autoImplicit false

/-!
Work on many items in contiguous batches, one per thread. Batches are data: what a batch does
depends only on the positions of its items, so they may run in any order.
-/

namespace LandmarkMap

structure Batch where
  first : Nat
  length : Nat
deriving DecidableEq, Repr

structure Parallelism where
  /-- Whether to use threads for few items too. -/
  always : Bool
  threads : Option Nat
  /-- How many threads there are where the number is left open. -/
  atHand : Nat
deriving DecidableEq, Repr

def Parallelism.threadCount (p : Parallelism) : Nat := max 1 (p.threads.getD p.atHand)

def Parallelism.single : Parallelism := ⟨false, some 1, 1⟩

namespace Batch

def serialThreshold : Nat := 64

def leastLength (items threads : Nat) : Nat := max 1 ((items + threads - 1) / threads)

def lengthFor {α : Type} (items threads : Nat) : Except (Fault α) Nat := do
  require (0 < threads) .noThreads
  return leastLength items threads

def runsSerially (items threads : Nat) (always : Bool) : Bool :=
  threads == 1 || (!always && decide (items < serialThreshold))

def split (items length : Nat) : List Batch :=
  (List.range ((items + length - 1) / length)).map fun i =>
    ⟨i * length, min length (items - i * length)⟩

def plan {α : Type} (items threads : Nat) (always : Bool) : Except (Fault α) (List Batch) := do
  require (0 < threads) .noThreads
  if items = 0 then return []
  else if runsSerially items threads always then return [⟨0, items⟩]
  else return split items (leastLength items threads)

/-- The batches of items that are nothing but their positions, of which a list is made first. -/
def planPositions {α : Type} (items threads : Nat) (always : Bool) :
    Except (Fault α) (List Batch) := do
  require (0 < threads) .noThreads
  Word.reserve items 8
  plan items threads always

def slice {τ : Type} (b : Batch) (items : List τ) : List (τ × Nat) :=
  ((items.drop b.first).take b.length).zipIdx b.first

def run {ε τ ρ : Type} (b : Batch) (work : Nat → τ → Except ε ρ) (items : List τ) :
    Except ε (List ρ) :=
  (b.slice items).mapM fun (item, i) => work i item

end Batch

def mapBatches {α τ ρ : Type} (threads : Nat) (always : Bool) (work : Nat → τ → Except (Fault α) ρ)
    (items : List τ) : Except (Fault α) (List ρ) := do
  let batches ← Batch.plan items.length threads always
  return (← batches.mapM fun b => b.run work items).flatten

structure Progress where
  processed : Nat
  total : Nat
deriving DecidableEq, Repr

namespace Progress

def start (total : Nat) : Progress := ⟨0, total⟩

def add {α : Type} (p : Progress) (n : Nat) : Except (Fault α) Progress := do
  return { p with processed := ← Word.add p.processed n }

def fraction {α : Type} [Scalar α] (p : Progress) : α :=
  if p.total = 0 then 1 else Scalar.ofNat p.processed / Scalar.ofNat p.total

end Progress

end LandmarkMap
