import BurstProfiler.Text.Inspect

/-! A frame of a captured stack: an instruction pointer and, when it is resolved, the index of
its module in the profile's table. -/

set_option autoImplicit false

namespace BurstProfiler

structure Frame where
  instructionPointer : UInt64
  moduleIndex : Option Nat
  deriving DecidableEq, Repr

abbrev Sample := List Frame

namespace Frame

/-- Unresolved frames come before resolved ones. -/
def compareIndex : Option Nat → Option Nat → Ordering
  | none, none => .eq
  | none, some _ => .lt
  | some _, none => .gt
  | some i, some j => compare i j

def compare (a b : Frame) : Ordering :=
  (Ord.compare a.instructionPointer b.instructionPointer).then
    (compareIndex a.moduleIndex b.moduleIndex)

def sort (frames : List Frame) : List Frame :=
  frames.mergeSort (fun a b => (compare a b).isLE)

def least? (frames : List Frame) : Option Frame := (sort frames).head?

def greatest? (frames : List Frame) : Option Frame := (sort frames).getLast?

def neighbourOrders : List Frame → List Ordering
  | a :: b :: rest => compare a b :: neighbourOrders (b :: rest)
  | _ => []

def inspect (f : Frame) : String :=
  Text.inspectRecord "Frame" [
    ("instruction_pointer", toString f.instructionPointer.toNat),
    ("module_index", Text.inspectOption (f.moduleIndex.map toString))]

end Frame

end BurstProfiler
