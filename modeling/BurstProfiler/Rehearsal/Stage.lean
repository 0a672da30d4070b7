import BurstProfiler.Rehearsal.Actor

/-! Profilers on one stage: they share a clock, which moves only when somebody waits, and then
to the next deadline. -/

set_option autoImplicit false

namespace BurstProfiler.Rehearsal

inductive Shelf where
  | own
  | global
  deriving DecidableEq, Repr

structure Stage where
  now : Instant
  own : PendingStore
  global : PendingStore
  actors : Array (Actor × Shelf)

namespace Stage

def ofActors (actors : List (Actor × Shelf)) : Stage := ⟨.origin, .empty, .empty, actors.toArray⟩

def store (s : Stage) : Shelf → PendingStore
  | .own => s.own
  | .global => s.global

def withStore (s : Stage) (shelf : Shelf) (store : PendingStore) : Stage :=
  match shelf with
  | .own => { s with own := store }
  | .global => { s with global := store }

def actor? (s : Stage) (i : Nat) : Option Actor := s.actors[i]?.map Prod.fst

def setActor (s : Stage) (i : Nat) (a : Actor) : Stage :=
  { s with actors := s.actors.modify i (fun entry => (a, entry.2)) }

def settleActor (s : Stage) (i : Nat) : Stage :=
  match s.actors[i]? with
  | none => s
  | some (a, shelf) =>
    let (a, store) := a.settle s.now (s.store shelf)
    (s.setActor i a).withStore shelf store

def settle (s : Stage) : Stage :=
  (List.range s.actors.size).foldl settleActor s

def nextDeadline? (s : Stage) : Option Instant :=
  (s.actors.toList.filterMap (fun entry => entry.1.deadline?)).foldl
    (fun first d =>
      match first with
      | none => some d
      | some t => if t ≤ d then some t else some d)
    none

/-- How many times the clock can still be moved to a deadline. -/
def wakeups (s : Stage) : Nat :=
  (s.actors.toList.map (fun entry => entry.1.remaining)).foldr (· + ·) 1

/-- Moves the clock from deadline to deadline until the condition holds. Answers whether it came
to hold, by the limit if there is one. -/
def waitFor (condition : Stage → Bool) (limit : Option Instant) : Nat → Stage → Bool × Stage
  | 0, s => (condition s, s)
  | fuel + 1, s =>
    if condition s then (true, s)
    else
      match s.nextDeadline? with
      | none => (false, s)
      | some d =>
        if (limit.map (fun l => decide (d ≤ l))).getD true then
          waitFor condition limit fuel (({ s with now := s.now.later d } : Stage).settle)
        else (false, { s with now := limit.getD s.now })

def await (condition : Stage → Bool) (limit : Option Instant) (s : Stage) : Bool × Stage :=
  waitFor condition limit s.wakeups s.settle

def patience : Duration := .ofMillis 5000

def awaitPatiently (condition : Stage → Bool) (s : Stage) : Bool × Stage :=
  s.await condition (s.now.add? patience)

def update (s : Stage) (i : Nat) (f : Actor → Actor) : Stage :=
  match s.actor? i with
  | none => s
  | some a => s.setActor i (f a)

def updateProfiler (s : Stage) (i : Nat) (f : Profiler → Profiler) : Stage :=
  s.update i (fun a => { a with profiler := f a.profiler })

def profilerHolds (i : Nat) (condition : Profiler → Bool) (s : Stage) : Bool :=
  (s.actor? i).any (fun a => condition a.profiler)

/-- Waits until the actor's run is over and joins it; nothing changes if it never is. -/
def join (s : Stage) (i : Nat) : Stage :=
  let (done, s) := s.await (profilerHolds i Profiler.mayJoin) none
  if done then s.updateProfiler i Profiler.join else s

def drop (s : Stage) (i : Nat) : Stage :=
  (s.updateProfiler i Profiler.beginDrop).join i

end Stage

end BurstProfiler.Rehearsal
