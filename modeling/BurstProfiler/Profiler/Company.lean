import BurstProfiler.Profiler

/-! Profilers that share a store, step by step: the calls of their owners, the work of their
sampling threads and the drains of the store, in any order. A call that comes too late changes
nothing. -/

set_option autoImplicit false

namespace BurstProfiler.Profiler

open Schedule

/-- Whether the owner still has the profiler. Dropping is over when the run is. -/
inductive Presence where
  | held
  | dropping
  | gone
  deriving DecidableEq, Repr

structure Member where
  profiler : Profiler
  presence : Presence

structure Company where
  members : List Member
  store : PendingStore
  drained : List (List Profile)

inductive Act where
  | setCallback (member : Nat) (callback : Callback)
  | start (member : Nat)
  | stop (member : Nat)
  | wait (member : Nat)
  | drop (member : Nat)
  | letGo (member : Nat)
  | work (member : Nat) (event : Event)
  | drain

namespace Company

def fresh (profilers : List Profiler) : Company := ⟨profilers.map (⟨·, .held⟩), .empty, []⟩

def put (c : Company) (i : Nat) (p : Profiler) (presence : Presence) : Company :=
  { c with members := c.members.set i ⟨p, presence⟩ }

def call? (c : Company) (i : Nat) (f : Profiler → Option Profiler) (after : Presence) :
    Option Company :=
  match c.members[i]? with
  | some ⟨p, .held⟩ => (f p).map (fun q => c.put i q after)
  | _ => none

def attempt (p : Profiler) (result : Except Misuse Profiler) : Profiler :=
  match result with
  | .ok q => q
  | .error _ => p

/-- The company after an act, if the act is possible. A stop is possible at any time. -/
def step? (c : Company) : Act → Option Company
  | .setCallback i callback =>
    c.call? i (fun p => some (attempt p (p.setCallback callback))) .held
  | .start i => c.call? i (fun p => some (attempt p p.start)) .held
  | .stop i => (c.members[i]?).map (fun m => c.put i m.profiler.stop m.presence)
  | .wait i => c.call? i (fun p => if p.mayJoin then some p.join else none) .held
  | .drop i => c.call? i (fun p => some p.beginDrop) .dropping
  | .letGo i =>
    match c.members[i]? with
    | some ⟨p, .dropping⟩ => if p.mayJoin then some (c.put i p.join .gone) else none
    | _ => none
  | .work i event =>
    match c.members[i]? with
    | none => none
    | some m =>
      (m.profiler.step? c.store event).map (fun r =>
        { c.put i r.1 m.presence with store := r.2 })
  | .drain =>
    some { c with drained := c.drained ++ [c.store.drain.1], store := c.store.drain.2 }

def replay? (c : Company) : List Act → Option Company
  | [] => some c
  | act :: rest => (c.step? act).bind (fun d => d.replay? rest)

end Company

end BurstProfiler.Profiler
