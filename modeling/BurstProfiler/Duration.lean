/-! Lengths of time in whole nanoseconds. A duration holds at most 2^64 - 1 whole seconds and a
part below one second; sums and multiples beyond that have no value. -/

set_option autoImplicit false

namespace BurstProfiler

/-- The first number of nanoseconds that is no duration. -/
def Duration.limit : Nat := 18_446_744_073_709_551_616 * 1_000_000_000

structure Duration where
  nanos : Nat
  nanos_lt : nanos < Duration.limit
  deriving DecidableEq, Repr

namespace Duration

def zero : Duration := ⟨0, by decide⟩

instance : Inhabited Duration := ⟨zero⟩

def ofNanos? (n : Nat) : Option Duration :=
  if h : n < limit then some ⟨n, h⟩ else none

def ofParts? (seconds nanoseconds : Nat) : Option Duration :=
  if nanoseconds < 1_000_000_000 then ofNanos? (seconds * 1_000_000_000 + nanoseconds) else none

def ofSeconds (seconds : UInt64) : Duration :=
  ⟨seconds.toNat * 1_000_000_000, by have := seconds.toNat_lt; unfold limit; omega⟩

def ofMicros (micros : UInt64) : Duration :=
  ⟨micros.toNat * 1000, by have := micros.toNat_lt; unfold limit; omega⟩

def ofMillis (millis : UInt64) : Duration :=
  ⟨millis.toNat * 1_000_000, by have := millis.toNat_lt; unfold limit; omega⟩

def seconds (d : Duration) : Nat := d.nanos / 1_000_000_000

def subsecond (d : Duration) : Nat := d.nanos % 1_000_000_000

def micros (d : Duration) : Nat := d.nanos / 1000

def millis (d : Duration) : Nat := d.nanos / 1_000_000

def add? (a b : Duration) : Option Duration := ofNanos? (a.nanos + b.nanos)

def scale? (count : Nat) (d : Duration) : Option Duration := ofNanos? (count * d.nanos)

def isZero (d : Duration) : Bool := d.nanos == 0

theorem ofNanos?_eq_some_iff {n : Nat} {d : Duration} : ofNanos? n = some d ↔ n = d.nanos := by
  unfold ofNanos?
  split
  · rename_i h
    constructor
    · intro same; cases same; rfl
    · intro same; subst same; rfl
  · rename_i h
    constructor
    · simp
    · intro same; exact absurd d.nanos_lt (same ▸ h)

theorem add?_eq_some_iff {a b d : Duration} : a.add? b = some d ↔ a.nanos + b.nanos = d.nanos :=
  ofNanos?_eq_some_iff

theorem scale?_eq_some_iff {count : Nat} {a d : Duration} :
    a.scale? count = some d ↔ count * a.nanos = d.nanos :=
  ofNanos?_eq_some_iff

end Duration

end BurstProfiler
