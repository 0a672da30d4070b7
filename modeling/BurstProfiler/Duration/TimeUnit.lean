/-! The units in which lengths of time are written and read. -/

set_option autoImplicit false

namespace BurstProfiler

inductive TimeUnit where
  | nanosecond
  | microsecond
  | millisecond
  | second
  | minute
  | hour
  | day
  | week
  | month
  | year
  deriving DecidableEq, Repr

namespace TimeUnit

def nanos : TimeUnit → Nat
  | .nanosecond => 1
  | .microsecond => 1000
  | .millisecond => 1_000_000
  | .second => 1_000_000_000
  | .minute => 60 * 1_000_000_000
  | .hour => 3600 * 1_000_000_000
  | .day => 86400 * 1_000_000_000
  | .week => 604800 * 1_000_000_000
  | .month => 2630016 * 1_000_000_000
  | .year => 31557600 * 1_000_000_000

/-- The grain to which a fraction of the unit must come out exactly. A nanosecond has no
fractions. -/
def grain? : TimeUnit → Option Nat
  | .nanosecond => none
  | .microsecond | .millisecond | .second | .minute => some 1
  | .hour | .day | .week | .month | .year => some 1_000_000_000

/-- Units of a second and above are counted in whole seconds, the others in nanoseconds. -/
def isCoarse (unit : TimeUnit) : Bool := 1_000_000_000 ≤ unit.nanos

/-- The spellings of a unit, case counting: `m` is a minute and `M` a month. -/
def spellings : TimeUnit → List String
  | .nanosecond => ["ns", "nsec", "nanos"]
  | .microsecond => ["us", "usec", "µs"]
  | .millisecond => ["ms", "msec", "millis"]
  | .second => ["s", "sec", "secs", "second", "seconds"]
  | .minute => ["m", "min", "mins", "minute", "minutes"]
  | .hour => ["h", "hr", "hrs", "hour", "hours"]
  | .day => ["d", "day", "days"]
  | .week => ["w", "wk", "wks", "week", "weeks"]
  | .month => ["M", "month", "months"]
  | .year => ["y", "yr", "yrs", "year", "years"]

def all : List TimeUnit :=
  [.nanosecond, .microsecond, .millisecond, .second, .minute, .hour, .day, .week, .month, .year]

def ofSpelling? (text : List Char) : Option TimeUnit :=
  all.find? (fun unit => unit.spellings.any (fun spelling => spelling.toList == text))

def spellingFor (count : Nat) : TimeUnit → String
  | .nanosecond => "ns"
  | .microsecond => "us"
  | .millisecond => "ms"
  | .second => "s"
  | .minute => "m"
  | .hour => "h"
  | .day => if count > 1 then "days" else "day"
  | .week => if count > 1 then "weeks" else "week"
  | .month => if count > 1 then "months" else "month"
  | .year => if count > 1 then "years" else "year"

end TimeUnit

end BurstProfiler
