import BurstProfiler.Schedule.Session

/-! Histories of a session: its events in order, with the requests to stop that fall between
them. -/

set_option autoImplicit false

namespace BurstProfiler.Schedule

inductive Move where
  | event (event : Event)
  | requestStop

namespace Session

def move? (s : Session) (store : PendingStore) : Move → Option (Session × PendingStore)
  | .event event => s.step? store event
  | .requestStop => some (s.requestStop, store)

/-- The session and the store after a history, if all of its moves are possible. -/
def replay? (s : Session) (store : PendingStore) : List Move → Option (Session × PendingStore)
  | [] => some (s, store)
  | move :: rest =>
    match s.move? store move with
    | none => none
    | some (s, store) => s.replay? store rest

theorem replay?_append (s : Session) (store : PendingStore) (first second : List Move) :
    s.replay? store (first ++ second) =
      (s.replay? store first).bind (fun r => r.1.replay? r.2 second) := by
  induction first generalizing s store with
  | nil => rfl
  | cons move rest ih =>
    simp only [List.cons_append, replay?]
    split
    · rfl
    · exact ih _ _

end Session

end BurstProfiler.Schedule
