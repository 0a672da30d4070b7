import BurstProfiler.Schedule.Progress
import BurstProfiler.Sink

/-! A run with what surrounds it: the stop flag, the sink and the callback's deliveries. Anybody
may set the flag between two steps of the run; a wait that ends reports the flag as it is then. -/

set_option autoImplicit false

namespace BurstProfiler.Schedule

structure Session where
  params : Params
  run : Run
  sink : Sink
  stopRequested : Bool
  delivered : List (List Profile)

namespace Session

def fresh (p : Params) (sink : Sink) : Session := ⟨p, .fresh, sink, false, []⟩

def requestStop (s : Session) : Session := { s with stopRequested := true }

/-- The report of a wait agrees with the flag. -/
def agrees (s : Session) : Event → Bool
  | .awoke stopped _ => stopped == s.stopRequested
  | _ => true

/-- What an event does to the sink and the store besides its effect on the run. -/
def deliver (s : Session) (store : PendingStore) (event : Event) : Session × PendingStore :=
  match event, s.run.phase with
  | .published, .publishing _ profile _ =>
    ({ s with sink := (s.sink.publish store profile).1 }, (s.sink.publish store profile).2)
  | .completed, _ =>
    match s.sink.batch? with
    | some batch => ({ s with delivered := s.delivered ++ [batch] }, store)
    | none => (s, store)
  | _, _ => (s, store)

def step? (s : Session) (store : PendingStore) (event : Event) :
    Option (Session × PendingStore) :=
  if s.agrees event then
    (s.run.step? s.params event).map (fun run =>
      ({ (s.deliver store event).1 with run := run }, (s.deliver store event).2))
  else none

def remaining (s : Session) : Nat := s.run.remaining s.params

theorem deliver_params (s : Session) (store : PendingStore) (event : Event) :
    (s.deliver store event).1.params = s.params := by
  unfold deliver
  split
  · rfl
  · split <;> rfl
  · rfl

theorem step?_params {s t : Session} {store after : PendingStore} {event : Event}
    (h : s.step? store event = some (t, after)) : t.params = s.params := by
  unfold step? at h
  split at h
  · obtain ⟨run, -, same⟩ := Option.map_eq_some_iff.1 h
    simp only [Prod.mk.injEq] at same
    rw [← same.1]; exact deliver_params s store event
  · simp at h

theorem remaining_lt_of_step? {s t : Session} {store after : PendingStore} {event : Event}
    (h : s.step? store event = some (t, after)) : t.remaining < s.remaining := by
  have params := step?_params h
  unfold step? at h
  split at h
  · obtain ⟨run, step, same⟩ := Option.map_eq_some_iff.1 h
    simp only [Prod.mk.injEq] at same
    have lower := remaining_lt_of_step step
    unfold remaining
    rw [params, ← same.1]
    exact lower
  · simp at h

end Session

end BurstProfiler.Schedule
