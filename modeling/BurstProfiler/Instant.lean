import BurstProfiler.Duration

/-! Points of a clock that never goes back. An instant is a count of nanoseconds below 2^63
seconds; a sum beyond that is no instant. -/

set_option autoImplicit false

namespace BurstProfiler

def Instant.limit : Nat := 9_223_372_036_854_775_808 * 1_000_000_000

structure Instant where
  nanos : Nat
  nanos_lt : nanos < Instant.limit
  deriving DecidableEq, Repr

namespace Instant

def origin : Instant := ⟨0, by decide⟩

instance : Inhabited Instant := ⟨origin⟩

instance : LE Instant := ⟨fun a b => a.nanos ≤ b.nanos⟩

instance (a b : Instant) : Decidable (a ≤ b) := inferInstanceAs (Decidable (a.nanos ≤ b.nanos))

def ofNanos? (n : Nat) : Option Instant := if h : n < limit then some ⟨n, h⟩ else none

def add? (t : Instant) (d : Duration) : Option Instant := ofNanos? (t.nanos + d.nanos)

def later (a b : Instant) : Instant := if a ≤ b then b else a

/-- The time from an earlier instant; zero if it is not earlier. -/
def since (t earlier : Instant) : Duration :=
  ⟨t.nanos - earlier.nanos, by
    have := t.nanos_lt
    unfold limit at this
    unfold Duration.limit
    omega⟩

theorem ofNanos?_eq_some_iff {n : Nat} {t : Instant} : ofNanos? n = some t ↔ n = t.nanos := by
  unfold ofNanos?
  split
  · rename_i h
    constructor
    · intro same; cases same; rfl
    · intro same; subst same; rfl
  · rename_i h
    constructor
    · simp
    · intro same; exact absurd t.nanos_lt (same ▸ h)

theorem add?_eq_some_iff {t u : Instant} {d : Duration} :
    t.add? d = some u ↔ t.nanos + d.nanos = u.nanos :=
  ofNanos?_eq_some_iff

theorem nanos_later (a b : Instant) : (a.later b).nanos = max a.nanos b.nanos := by
  unfold later
  split
  · rename_i le
    exact (Nat.max_eq_right le).symm
  · rename_i late
    exact (Nat.max_eq_left (Nat.le_of_not_le late)).symm

theorem ofNanos?_bind_add? (n : Nat) (d : Duration) :
    (ofNanos? n).bind (fun t => t.add? d) = ofNanos? (n + d.nanos) := by
  apply Option.ext
  intro u
  simp only [Option.bind_eq_some_iff, add?_eq_some_iff, ofNanos?_eq_some_iff]
  constructor
  · rintro ⟨t, rfl, sum⟩
    exact sum
  · intro sum
    have small := u.nanos_lt
    exact ⟨⟨n, by omega⟩, rfl, sum⟩

end Instant

end BurstProfiler
