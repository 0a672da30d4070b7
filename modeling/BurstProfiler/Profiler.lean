import BurstProfiler.Schedule.Session
import BurstProfiler.ThreadId

/-! A profiler of one thread. It is set up, started once, and ends by itself or when it is
stopped or dropped; whoever waits for it gets the counters of its run. -/

set_option autoImplicit false

namespace BurstProfiler

open Schedule

inductive Misuse where
  | callbackAfterStart
  | startedTwice
  deriving DecidableEq, Repr

def Misuse.message : Misuse → String
  | .callbackAfterStart => "set_custom_completed_callback called after start"
  | .startedTwice => "StackSamplingProfiler::start called twice"

/-- A callback for the profiles of a run: it takes them or breaks off. Callbacks that do the same
are told apart by their label. -/
structure Callback where
  label : Nat
  returns : Bool
  deriving DecidableEq, Repr

def Callback.takes : Callback := ⟨0, true⟩

def Callback.breaksOff : Callback := ⟨0, false⟩

structure Profiler where
  thread : ThreadId
  callback : Option Callback
  started : Bool
  /-- The sampling thread was started and nobody waited for it yet. -/
  attached : Bool
  summary : Option Summary
  session : Session
  receiver : Option Callback

namespace Profiler

def create (thread : ThreadId) (p : Params) : Profiler :=
  ⟨thread, none, false, false, none, .fresh p .pending, none⟩

def setCallback (callback : Callback) (p : Profiler) : Except Misuse Profiler :=
  if p.started then .error .callbackAfterStart else .ok { p with callback := some callback }

/-- Starts the run. Its profiles go to the callback if there is one, and to the store otherwise.
It is assumed that the system has a thread for the run; without one the call would break off, with
the callback lost and every further start refused. -/
def start (p : Profiler) : Except Misuse Profiler :=
  if p.started then .error .startedTwice
  else
    .ok { p with
      started := true
      attached := true
      callback := none
      receiver := p.callback
      session := { p.session with
        sink := if p.callback.isSome then .custom [] else .pending } }

def stop (p : Profiler) : Profiler := { p with session := p.session.requestStop }

def isStopped (p : Profiler) : Bool := p.session.stopRequested

def isRunning (p : Profiler) : Bool := p.attached && !p.session.run.isOver

def mayJoin (p : Profiler) : Bool := !p.attached || p.session.run.isOver

def join (p : Profiler) : Profiler :=
  if p.attached then { p with attached := false, summary := p.session.run.result? } else p

/-- A profiler without a sampling thread to ask reports how its run ended. -/
def state (p : Profiler) : State :=
  if p.attached then p.session.run.state
  else if (p.summary.map Summary.stopped).getD false then .stopped
  else if p.started then .finished
  else .idle

def beginDrop (p : Profiler) : Profiler := if p.attached then p.stop else p

def step? (p : Profiler) (store : PendingStore) (event : Event) :
    Option (Profiler × PendingStore) :=
  if p.attached then
    (p.session.step? store event).map (fun r => ({ p with session := r.1 }, r.2))
  else none

def inspect (p : Profiler) : String :=
  Text.inspectRecord "StackSamplingProfiler" [
    ("thread", p.thread.inspect),
    ("params", p.session.params.inspect),
    ("started", Text.inspectBool p.started),
    ("custom_callback", Text.inspectBool p.callback.isSome)]

theorem remaining_lt_of_step? {p q : Profiler} {store after : PendingStore} {event : Event}
    (h : p.step? store event = some (q, after)) :
    q.session.remaining < p.session.remaining := by
  unfold step? at h
  split at h
  · obtain ⟨⟨session, store'⟩, step, same⟩ := Option.map_eq_some_iff.1 h
    simp only [Prod.mk.injEq] at same
    rw [← same.1]
    exact Session.remaining_lt_of_step? step
  · simp at h

end Profiler

end BurstProfiler
