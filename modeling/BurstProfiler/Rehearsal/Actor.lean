import BurstProfiler.Profiler
import BurstProfiler.Rehearsal.Script
import BurstProfiler.StopSignal

/-! A profiler that plays its part by a script. At a given time it takes every step that is
possible; then it waits for a deadline, for a gate, or for nothing more. -/

set_option autoImplicit false

namespace BurstProfiler.Rehearsal

open Schedule

inductive Call where
  | create (thread : ThreadId)
  | starting
  | sample
  | stopped
  deriving DecidableEq, Repr

structure Actor where
  profiler : Profiler
  script : Script
  calls : Nat
  released : Nat
  log : Array Call

namespace Actor

def create (thread : ThreadId) (p : Params) (script : Script) : Actor :=
  ⟨.create thread p, script, 0, 0, #[]⟩

def session (a : Actor) : Session := a.profiler.session
def phase (a : Actor) : Phase := a.session.run.phase
def remaining (a : Actor) : Nat := a.session.remaining

def completion (a : Actor) : Event :=
  match a.profiler.receiver with
  | some callback => if callback.returns then .completed else .broke "callback"
  | none => .completed

def awake? (a : Actor) (now : Instant) : Option Event :=
  ((StopSignal.wait a.session.stopRequested now
    (a.session.run.deadline? a.session.params)).result?).map (fun stopped => .awoke stopped now)

def ready? (now : Instant) (a : Actor) : Option Event :=
  match a.phase with
  | .creating => some (.created a.script.available now)
  | .awaitingBurst _ | .awaitingSlot _ => a.awake? now
  | .starting _ => some (.started now)
  | .capturing recording =>
    if a.script.gated && a.released < a.calls && !a.session.stopRequested then none
    else some ((a.script.cue (a.calls - 1)).event recording.builder.table)
  | .closing _ _ => some (.closed now)
  | .publishing _ _ _ => some .published
  | .completing => some a.completion
  | .ended | .broken _ => none

def stopIf (a : Actor) (requested : Bool) : Actor :=
  if requested then { a with profiler := a.profiler.stop } else a

def note (a : Actor) (call : Call) : Actor := { a with log := a.log.push call }

/-- The capturer's part of an event: it notes the call and requests the scripted stops. A
capture is entered when the wait for its slot ends without a stop. -/
def perform (before : Phase) (event : Event) (a : Actor) : Actor :=
  match before, event with
  | .creating, _ => (a.note (.create a.profiler.thread)).stopIf a.script.stops.creation
  | .starting b, _ => (a.note .starting).stopIf (a.script.stops.starts.contains b.index)
  | .awaitingSlot _, .awoke false _ =>
    ({ a.note .sample with calls := a.calls + 1 } : Actor).stopIf
      (a.script.stops.calls.contains a.calls)
  | .closing r _, _ => (a.note .stopped).stopIf (a.script.stops.ends.contains r.burst.index)
  | _, _ => a

def step? (now : Instant) (a : Actor) (store : PendingStore) : Option (Actor × PendingStore) :=
  match a.ready? now with
  | none => none
  | some event =>
    match a.profiler.step? store event with
    | none => none
    | some (profiler, store) =>
      some (({ a with profiler := profiler } : Actor).perform a.phase event, store)

theorem stopIf_remaining (a : Actor) (requested : Bool) :
    (a.stopIf requested).remaining = a.remaining := by
  unfold stopIf; split <;> rfl

theorem perform_remaining (before : Phase) (event : Event) (a : Actor) :
    (a.perform before event).remaining = a.remaining := by
  unfold perform
  split
  · rw [stopIf_remaining]; rfl
  · rw [stopIf_remaining]; rfl
  · rw [stopIf_remaining]; rfl
  · rw [stopIf_remaining]; rfl
  · rfl

theorem remaining_lt_of_step? {now : Instant} {a b : Actor} {store after : PendingStore}
    (h : a.step? now store = some (b, after)) : b.remaining < a.remaining := by
  unfold step? at h
  split at h
  · simp at h
  · split at h
    · simp at h
    · rename_i profiler store' step
      simp only [Option.some.injEq, Prod.mk.injEq] at h
      rw [← h.1, perform_remaining]
      exact Profiler.remaining_lt_of_step? step

def settle (now : Instant) (a : Actor) (store : PendingStore) : Actor × PendingStore :=
  match _next : a.step? now store with
  | none => (a, store)
  | some (b, store) => b.settle now store
  termination_by a.remaining
  decreasing_by exact remaining_lt_of_step? _next

def deadline? (a : Actor) : Option Instant :=
  if a.profiler.isRunning then a.session.run.deadline? a.session.params else none

end Actor

end BurstProfiler.Rehearsal
