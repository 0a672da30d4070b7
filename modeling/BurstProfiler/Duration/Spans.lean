import BurstProfiler.Duration
import BurstProfiler.Duration.TimeUnit

/-! The written form of a duration: its parts from years down to nanoseconds, those that are
zero left out, as in `2years 1month 3days 4h 5m 6s 7ms 8us 9ns`. -/

set_option autoImplicit false

namespace BurstProfiler.Duration

structure Span where
  count : Nat
  unit : TimeUnit
  deriving DecidableEq, Repr

def Span.nanos (span : Span) : Nat := span.count * span.unit.nanos

def Span.text (span : Span) : List Char :=
  (Nat.toDigits 10 span.count) ++ (span.unit.spellingFor span.count).toList

/-- The units of the written form, largest first. Weeks are not among them. -/
def writtenUnits : List TimeUnit :=
  [.year, .month, .day, .hour, .minute, .second, .millisecond, .microsecond, .nanosecond]

/-- Nanoseconds as counts of the given units, each taking as much as it can of what the earlier
ones left. -/
def spansIn (nanos : Nat) : List TimeUnit → List Span
  | [] => []
  | unit :: units => ⟨nanos / unit.nanos, unit⟩ :: spansIn (nanos % unit.nanos) units

def spans (d : Duration) : List Span :=
  (spansIn d.nanos writtenUnits).filter (fun span => span.count != 0)

def spell (d : Duration) : List Char :=
  if d.isZero then ['0', 's'] else [' '].intercalate (d.spans.map Span.text)

def text (d : Duration) : String := String.ofList d.spell

theorem sum_spansIn (nanos : Nat) (units : List TimeUnit) :
    ((spansIn nanos (units ++ [.nanosecond])).map Span.nanos).foldr (· + ·) 0 = nanos := by
  induction units generalizing nanos with
  | nil => simp [spansIn, Span.nanos, TimeUnit.nanos]
  | cons unit units ih =>
    simp only [List.cons_append, spansIn, List.map_cons, List.foldr_cons, ih, Span.nanos]
    rw [Nat.mul_comm]; exact Nat.div_add_mod nanos unit.nanos

end BurstProfiler.Duration
