import BurstProfiler.Proofs.Schedule.Journal
import BurstProfiler.Proofs.Schedule.Transitions
import BurstProfiler.StopSignal

/-! A run on a clock of its own. Nobody stops it, a wait ends at its deadline or at once if that
is past, and only captures take time. When its bursts and captures began is told by a timetable,
which is read off the events alone. -/

set_option autoImplicit false

namespace BurstProfiler.Schedule

structure Work where
  capture : Capture
  takes : Duration

/-- How a wait comes back, and what the clock shows then. -/
def awoke? (stopRequested : Bool) (clock : Instant) (deadline : Option Instant) :
    Option (Event × Instant) :=
  (StopSignal.waitAlone stopRequested clock deadline).map
    (fun back => (.awoke back.1 back.2, back.2))

/-- The next event in a phase, with what the clock shows behind it; the work is known by burst and
slot. There is none if the run is over or waits for what is no instant. -/
def Phase.upcoming? (p : Params) (work : Nat → Nat → Work) (stopRequested : Bool)
    (clock : Instant) : Phase → Option (Event × Instant)
  | .creating => some (.created true clock, clock)
  | .awaitingBurst b => awoke? stopRequested clock b.target
  | .starting _ => some (.started clock, clock)
  | .awaitingSlot recording => awoke? stopRequested clock (recording.due? p)
  | .capturing recording =>
    let slot := work recording.burst.index recording.slot
    (clock.add? slot.takes).map (fun now => (.captured slot.capture.met slot.capture.result, now))
  | .closing _ _ => some (.closed clock, clock)
  | .publishing _ _ _ => some (.published, clock)
  | .completing => some (.completed, clock)
  | .ended | .broken _ => none

structure Clocked where
  session : Session
  store : PendingStore
  clock : Instant
  moves : List Move

namespace Clocked

def start (p : Params) (sink : Sink) (store : PendingStore) (now : Instant) : Clocked :=
  ⟨.fresh p sink, store, now, []⟩

def step? (work : Nat → Nat → Work) (c : Clocked) : Option Clocked :=
  match c.session.run.phase.upcoming? c.session.params work c.session.stopRequested c.clock with
  | none => none
  | some (event, now) =>
    (c.session.step? c.store event).map
      (fun next => ⟨next.1, next.2, now, c.moves ++ [.event event]⟩)

def steps (work : Nat → Nat → Work) : Nat → Clocked → Clocked
  | 0, c => c
  | n + 1, c =>
    match c.step? work with
    | none => c
    | some d => d.steps work n

/-- Goes on until nothing more can happen. No run takes more steps than its bound says. -/
def finish (work : Nat → Nat → Work) (c : Clocked) : Clocked := c.steps work c.session.remaining

theorem exists_of_step? {work : Nat → Nat → Work} {c d : Clocked} (h : c.step? work = some d) :
    ∃ event, c.session.run.phase.upcoming? c.session.params work c.session.stopRequested c.clock =
        some (event, d.clock) ∧ c.session.step? c.store event = some (d.session, d.store) ∧
      d.moves = c.moves ++ [.event event] := by
  unfold step? at h
  split at h
  · cases h
  · rename_i event now upcoming
    obtain ⟨⟨s, store⟩, stepped, rfl⟩ := Option.map_eq_some_iff.1 h
    exact ⟨event, upcoming, stepped, rfl⟩

variable {work : Nat → Nat → Work}

-- What holds at first and is kept by every step holds at the end.
theorem steps_induction (holds : Clocked → Prop)
    (kept : ∀ {c d : Clocked}, holds c → c.step? work = some d → holds d) (n : Nat) {c : Clocked}
    (first : holds c) : holds (c.steps work n) := by
  induction n generalizing c with
  | zero => exact first
  | succ n ih =>
    unfold steps
    split
    · exact first
    · rename_i d stepped
      exact ih (kept first stepped)

theorem step?_steps (n : Nat) {c : Clocked} (enough : c.session.remaining ≤ n) :
    (c.steps work n).step? work = none := by
  -- A step lowers the bound, so none is possible where the bound is zero.
  induction n generalizing c with
  | zero =>
    cases stepped : c.step? work with
    | none => exact stepped
    | some d =>
      obtain ⟨event, -, moved, -⟩ := exists_of_step? stepped
      have lower := Session.remaining_lt_of_step? moved
      omega
  | succ n ih =>
    unfold steps
    split
    · assumption
    · rename_i d stepped
      obtain ⟨event, -, moved, -⟩ := exists_of_step? stepped
      have lower := Session.remaining_lt_of_step? moved
      exact ih (by omega)

theorem step?_finish (c : Clocked) : (c.finish work).step? work = none :=
  step?_steps _ (Nat.le_refl _)

theorem replay?_finish (p : Params) (sink : Sink) (store : PendingStore) (now : Instant) :
    (Session.fresh p sink).replay? store ((start p sink store now).finish work).moves =
      some (((start p sink store now).finish work).session,
        ((start p sink store now).finish work).store) := by
  refine steps_induction
    (fun c => (Session.fresh p sink).replay? store c.moves = some (c.session, c.store)) ?_ _ rfl
  intro c d played stepped
  obtain ⟨event, -, moved, moves⟩ := exists_of_step? stepped
  rw [moves, Session.replay?_append, played, Option.bind_some]
  simp only [Session.replay?, Session.move?, moved]

end Clocked

/-- A burst by the clock: when it started, when each capture began, and when it was closed. -/
structure TimedBurst where
  started : Instant
  captures : List Instant
  closed : Option Instant
  deriving DecidableEq, Repr

structure Timetable where
  past : List TimedBurst
  current : Option TimedBurst

namespace Timetable

def blank : Timetable := ⟨[], none⟩

-- A capture begins when the wait for its slot comes back; between bursts there is no such wait.
def note (t : Timetable) : Move → Timetable
  | .event (.started now) => { t with current := some ⟨now, [], none⟩ }
  | .event (.awoke false now) =>
    { t with current := t.current.map (fun b => { b with captures := b.captures ++ [now] }) }
  | .event (.closed now) =>
    ⟨t.past ++ (t.current.map (fun b => { b with closed := some now })).toList, none⟩
  | _ => t

def ofMoves (moves : List Move) : Timetable := moves.foldl note blank

theorem note_awoke_of_none {t : Timetable} (idle : t.current = none) (now : Instant) :
    t.note (.event (.awoke false now)) = t := by
  obtain ⟨past, current⟩ := t
  cases idle
  rfl

theorem note_awoke {t : Timetable} {b : TimedBurst} (current : t.current = some b)
    (now : Instant) : t.note (.event (.awoke false now)) =
      { t with current := some { b with captures := b.captures ++ [now] } } := by
  unfold note
  rw [current]
  rfl

theorem note_closed {t : Timetable} {b : TimedBurst} (current : t.current = some b)
    (now : Instant) : t.note (.event (.closed now)) =
      ⟨t.past ++ [{ b with closed := some now }], none⟩ := by
  unfold note
  rw [current]
  rfl

def begun (t : Timetable) : List TimedBurst := t.past ++ t.current.toList

end Timetable

def Clocked.table (c : Clocked) : Timetable := .ofMoves c.moves

theorem Clocked.table_of_moves {c d : Clocked} {event : Event}
    (moves : d.moves = c.moves ++ [.event event]) : d.table = c.table.note (.event event) := by
  unfold Clocked.table Timetable.ofMoves
  rw [moves, List.foldl_append]
  rfl

end BurstProfiler.Schedule
