import BurstProfiler.StopSignal

/-! Threads on one stop signal, step by step. A section under the signal's lock is one step. A
waiting thread tests the flag and its deadline under the lock; if neither ends the wait it gives
up the lock and parks in the same step. A parked thread runs again when it is notified, when its
deadline comes, or for no reason, and tests again. -/

set_option autoImplicit false

namespace BurstProfiler.StopSignal

/-- What a thread is doing. A parked thread remembers whether a notification is on its way. -/
inductive Waiter where
  | idle
  | testing (deadline : Option Instant)
  | parked (deadline : Option Instant) (notified : Bool)
  | returned (deadline : Option Instant) (stopped : Bool)
  deriving DecidableEq, Repr

structure Scene where
  stopped : Bool
  now : Instant
  waiters : List Waiter
  deriving DecidableEq, Repr

inductive Step where
  | stop
  | isStopped
  | begin (thread : Nat) (deadline : Option Instant)
  | test (thread : Nat)
  | wake (thread : Nat)
  | forget (thread : Nat)
  | tick (now : Instant)
  deriving DecidableEq, Repr

def Waiter.notify : Waiter → Waiter
  | .parked deadline _ => .parked deadline true
  | other => other

def Waiter.test (stopped : Bool) (now : Instant) : Waiter → Option Waiter
  | .testing deadline =>
    match wait stopped now deadline with
    | .stopped => some (.returned deadline true)
    | .reached => some (.returned deadline false)
    | .waiting => some (.parked deadline false)
  | _ => none

def Waiter.wake : Waiter → Option Waiter
  | .parked deadline _ => some (.testing deadline)
  | _ => none

def Scene.update (s : Scene) (thread : Nat) (f : Waiter → Option Waiter) : Option Scene := do
  let waiter ← s.waiters[thread]?
  let waiter ← f waiter
  pure { s with waiters := s.waiters.set thread waiter }

/-- The scene after a step, if the step is possible. Time does not go back. -/
def Scene.step? (s : Scene) : Step → Option Scene
  | .stop =>
    if s.stopped then some s
    else some { s with stopped := true, waiters := s.waiters.map Waiter.notify }
  | .isStopped => some s
  | .begin thread deadline =>
    s.update thread (fun
      | .idle => some (.testing deadline)
      | _ => none)
  | .test thread => s.update thread (Waiter.test s.stopped s.now)
  | .wake thread => s.update thread Waiter.wake
  | .forget thread =>
    s.update thread (fun
      | .returned _ _ => some .idle
      | _ => none)
  | .tick now => if s.now ≤ now then some { s with now := now } else none

inductive Reachable : Scene → Prop where
  | fresh (now : Instant) (threads : Nat) :
      Reachable ⟨false, now, List.replicate threads .idle⟩
  | next {s t : Scene} (step : Step) : Reachable s → s.step? step = some t → Reachable t

end BurstProfiler.StopSignal
