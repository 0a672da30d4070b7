import BurstProfiler.Elf.Image

/-! Notes: records with a type, a name and a descriptor, each part aligned. -/

set_option autoImplicit false

namespace BurstProfiler.Elf

inductive NoteFault where
  | alignment
  | tooShort
  | nameSize
  | descriptorSize
  deriving DecidableEq, Repr

structure Note where
  kind : Nat
  name : List UInt8
  descriptor : List UInt8
  deriving DecidableEq, Repr

def NoteFault.message : NoteFault → String
  | .alignment => "Invalid ELF note alignment"
  | .tooShort => "ELF note is too short"
  | .nameSize => "Invalid ELF note namesz"
  | .descriptorSize => "Invalid ELF note descsz"

def noteAlignment? (stated : Nat) : Option Nat :=
  if stated ≤ 4 then some 4 else if stated = 8 then some 8 else none

def alignUp (n alignment : Nat) : Nat := (n + alignment - 1) / alignment * alignment

def dropTrailingZeros (name : List UInt8) : List UInt8 :=
  (name.reverse.dropWhile (· == 0)).reverse

/-- The note at the start of the bytes, and how many bytes it takes; at least twelve. -/
def firstNote (layout : Layout) (alignment : Nat) (bytes : Array UInt8) :
    Except NoteFault (Note × Nat) :=
  match number? layout bytes 0 4, number? layout bytes 4 4, number? layout bytes 8 4 with
  | some nameSize, some descriptorSize, some kind =>
    match slice? bytes ⟨12, nameSize⟩ with
    | none => .error .nameSize
    | some name =>
      let start := alignUp (12 + nameSize) alignment
      match slice? bytes ⟨start, descriptorSize⟩ with
      | none => .error .descriptorSize
      | some descriptor =>
        .ok (⟨kind, dropTrailingZeros name.toList, descriptor.toList⟩,
          max 12 (alignUp (start + descriptorSize) alignment))
  | _, _, _ => .error .tooShort

def gnuName : List UInt8 := [71, 78, 85]

def Note.isBuildId (note : Note) : Bool := note.kind == 3 && note.name == gnuName

def findBuildId (layout : Layout) (alignment : Nat) (bytes : Array UInt8) :
    Except NoteFault (Option (List UInt8)) :=
  if bytes.size = 0 then .ok none
  else
    match firstNote layout alignment bytes with
    | .error fault => .error fault
    | .ok (note, taken) =>
      if note.isBuildId then .ok (some note.descriptor)
      else if 0 < taken ∧ taken ≤ bytes.size then
        findBuildId layout alignment (bytes.extract taken bytes.size)
      else .ok none
  termination_by bytes.size
  decreasing_by
    simp only [Array.size_extract]; omega

end BurstProfiler.Elf
