import BurstProfiler.Stack.Walk

/-! A stretch of readable memory, nothing around it being readable. -/

set_option autoImplicit false

namespace BurstProfiler.Stack

structure Region where
  base : UInt64
  bytes : Array UInt8

namespace Region

def zeroed (base : UInt64) (size : Nat) : Region := ⟨base, Array.replicate size 0⟩

def contains (r : Region) (address : UInt64) : Bool :=
  r.base ≤ address && address.toNat < r.base.toNat + r.bytes.size

/-- Writes a word at an offset, lowest byte first. -/
def writeWord (r : Region) (offset : Nat) (value : UInt64) : Region :=
  { r with
    bytes := (List.range 8).foldl
      (fun bytes i => bytes.setIfInBounds (offset + i) (value >>> (8 * i).toUInt64).toUInt8)
      r.bytes }

def word? (r : Region) (offset : Nat) : Option UInt64 :=
  (List.range 8).foldr
    (fun i word? => do
      let word ← word?
      let b ← r.bytes[offset + i]?
      pure (word * 256 + b.toUInt64))
    (some 0)

def record? (r : Region) (address : UInt64) : Option Record :=
  if r.base ≤ address then do
    let offset := (address - r.base).toNat
    let next ← r.word? offset
    let returnAddress ← r.word? (offset + 8)
    pure ⟨next, returnAddress⟩
  else none

end Region

end BurstProfiler.Stack
