import BurstProfiler.Instant

/-! The stop signal: a flag that is set once and stays set. A wait on it ends when the flag is
set or a deadline is reached. -/

set_option autoImplicit false

namespace BurstProfiler.StopSignal

/-- How a wait stands at an instant: it is over because of the flag or the deadline, or it goes
on. Without a deadline only the flag ends it. -/
inductive Wait where
  | stopped
  | reached
  | waiting
  deriving DecidableEq, Repr

def wait (stopRequested : Bool) (now : Instant) (deadline : Option Instant) : Wait :=
  if stopRequested then .stopped
  else
    match deadline with
    | some d => if d ≤ now then .reached else .waiting
    | none => .waiting

def Wait.result? : Wait → Option Bool
  | .stopped => some true
  | .reached => some false
  | .waiting => none

/-- The wait of a thread that nobody interrupts: what it returns and when; none if it never
ends. -/
def waitAlone (stopRequested : Bool) (now : Instant) (deadline : Option Instant) :
    Option (Bool × Instant) :=
  if stopRequested then some (true, now) else deadline.map (fun d => (false, now.later d))

end BurstProfiler.StopSignal
