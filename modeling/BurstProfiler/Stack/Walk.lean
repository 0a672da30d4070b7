/-! Walking a stack by its frame pointers. Each frame record holds the caller's frame pointer and
the return address; the walk goes towards higher addresses and ends at the first record that is
out of place. -/

set_option autoImplicit false

namespace BurstProfiler.Stack

structure Record where
  next : UInt64
  returnAddress : UInt64
  deriving DecidableEq, Repr

abbrev RecordMemory := UInt64 → Option Record

def maxDepth : Nat := 128

/-- Records are looked for this many bytes above the stack pointer. -/
def maxBytes : Nat := 64 * 1024 * 1024

/-- The first address that is too far above the stack pointer. -/
def ceiling (sp : UInt64) : Nat := min (sp.toNat + maxBytes) 18_446_744_073_709_551_615

/-- A place where a record may lie: aligned to words and between the stack pointer and the
ceiling. -/
def isPlace (sp fp : UInt64) : Bool :=
  fp != 0 && fp % 8 == 0 && sp ≤ fp && fp.toNat < ceiling sp

/-- The return addresses from a frame pointer on, at most `room` of them. -/
def returnAddresses (memory : RecordMemory) (sp : UInt64) : Nat → UInt64 → List UInt64
  | 0, _ => []
  | room + 1, fp =>
    if isPlace sp fp then
      match memory fp with
      | none => []
      | some record =>
        if record.returnAddress = 0 then []
        else if record.next ≤ fp then [record.returnAddress]
        else record.returnAddress :: returnAddresses memory sp room record.next
    else []

/-- The addresses of a stack, innermost first: the interrupted instruction, unless it is zero,
and the return addresses. -/
def walk (memory : RecordMemory) (pc fp sp : UInt64) : List UInt64 :=
  if pc = 0 then returnAddresses memory sp maxDepth fp
  else pc :: returnAddresses memory sp (maxDepth - 1) fp

theorem length_returnAddresses_le (memory : RecordMemory) (sp : UInt64) (room : Nat)
    (fp : UInt64) : (returnAddresses memory sp room fp).length ≤ room := by
  induction room generalizing fp with
  | zero => simp [returnAddresses]
  | succ room ih =>
    unfold returnAddresses
    split
    · split
      · simp
      · split
        · simp
        · split
          · simp
          · simpa using ih _
    · simp

theorem length_walk_le (memory : RecordMemory) (pc fp sp : UInt64) :
    (walk memory pc fp sp).length ≤ maxDepth := by
  unfold walk
  split
  · exact length_returnAddresses_le memory sp maxDepth fp
  · have := length_returnAddresses_le memory sp (maxDepth - 1) fp
    simp only [List.length_cons, maxDepth] at *
    omega

end BurstProfiler.Stack
