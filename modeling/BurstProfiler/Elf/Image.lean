/-! The bytes of an ELF file and the numbers in them, in the file's word size and byte order. -/

set_option autoImplicit false

namespace BurstProfiler.Elf

structure Layout where
  wide : Bool
  bigEndian : Bool
  deriving DecidableEq, Repr

structure Image where
  bytes : Array UInt8
  layout : Layout

structure Range where
  offset : Nat
  size : Nat
  deriving DecidableEq, Repr

/-- The end of a stretch lies below this number. -/
def offsetLimit : Nat := 18_446_744_073_709_551_616

def slice? (bytes : Array UInt8) (range : Range) : Option (Array UInt8) :=
  if range.offset + range.size ≤ bytes.size then
    some (bytes.extract range.offset (range.offset + range.size))
  else none

/-- The value of bytes, the last one counting most. -/
def littleValue : List UInt8 → Nat
  | [] => 0
  | b :: rest => b.toNat + 256 * littleValue rest

def number? (layout : Layout) (bytes : Array UInt8) (offset size : Nat) : Option Nat :=
  (slice? bytes ⟨offset, size⟩).map (fun digits =>
    littleValue (if layout.bigEndian then digits.toList.reverse else digits.toList))

namespace Image

/-- The number at a place known to be inside the file; zero otherwise. -/
def number (image : Image) (offset size : Nat) : Nat :=
  (number? image.layout image.bytes offset size).getD 0

def fits (image : Image) (range : Range) : Bool :=
  range.offset + range.size ≤ image.bytes.size

def wordSize (image : Image) : Nat := if image.layout.wide then 8 else 4

/-- One of two offsets or sizes: the first in 32-bit files, the second in 64-bit files. -/
def pick (image : Image) (narrow wide : Nat) : Nat := if image.layout.wide then wide else narrow

end Image

end BurstProfiler.Elf
