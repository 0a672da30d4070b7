import BurstProfiler.Stack.Walk
import BurstProfiler.ThreadId

/-! Capturing the stack of another thread, one atomic step at a time. A capture resets the one
slot, arms it with the thread's number and sends the thread a signal; the signal's handler claims
the slot by disarming it, writes its stack there and says when it is done. A capture that waited
too long disarms the slot itself, unless a handler was faster. Signals may be handled late, also
when another capture has armed the slot. -/

set_option autoImplicit false

namespace BurstProfiler.Stack.Handshake

/-- A word of the slot with the number of the handler run that wrote it. -/
structure Cell where
  address : UInt64
  writer : Option Nat
  deriving DecidableEq, Repr

/-- The number that no thread has. -/
def disarmed : ThreadId := ⟨0⟩

structure Slot where
  armed : ThreadId
  done : Bool
  depth : Nat
  cells : Vector Cell maxDepth
  deriving DecidableEq, Repr

def Slot.fresh : Slot := ⟨disarmed, false, 0, .replicate maxDepth ⟨0, none⟩⟩

/-- Where the capture that holds the lock stands, named for what it does next. -/
inductive Stage where
  | idle
  | clearing (target : ThreadId)
  | arming (target : ThreadId)
  | sending (target : ThreadId)
  | failing (target : ThreadId)
  | polling (target : ThreadId)
  | measuring (target : ThreadId)
  | copying (target : ThreadId) (depth : Nat) (copied : List Cell)
  deriving DecidableEq, Repr

inductive HandlerStage where
  | entered
  | writing (written : Nat)
  | depthStored
  | finished
  deriving DecidableEq, Repr

/-- A run of the handler on a thread; `claimed` is the number of the capture whose arming it
took. -/
structure HandlerRun where
  thread : ThreadId
  stack : List UInt64
  stage : HandlerStage
  claimed : Option Nat
  deriving DecidableEq, Repr

def HandlerRun.owns (r : HandlerRun) : Bool :=
  match r.stage with
  | .writing _ | .depthStored => true
  | .entered | .finished => false

inductive Result where
  | stack (cells : List Cell)
  | timeout
  | refused
  deriving DecidableEq, Repr

structure Answer where
  capture : Nat
  target : ThreadId
  result : Result
  deriving DecidableEq, Repr

structure Scene where
  slot : Slot
  stage : Stage
  /-- How many captures there were, the present one included. -/
  captures : Nat
  pending : List ThreadId
  runs : List HandlerRun
  exited : List ThreadId
  answers : List Answer
  deriving DecidableEq, Repr

def Scene.fresh : Scene := ⟨.fresh, .idle, 0, [], [], [], []⟩

/-- What becomes of a signal: it waits, it falls together with one that waits for the same
thread, or the thread is gone. -/
inductive Sending where
  | queued
  | merged
  | refused
  deriving DecidableEq, Repr

/-- The steps of the capture that holds the lock, of a handler run by its number, and of the
threads. -/
inductive Step where
  | reset (target : ThreadId)
  | clear
  | arm
  | send (sending : Sending)
  | disarm
  | poll
  | giveUp
  | measure
  | copy
  | handle (thread : ThreadId) (stack : List UInt64)
  | advance (run : Nat)
  | exit (thread : ThreadId)
  | spawn (thread : ThreadId)
  deriving DecidableEq, Repr

namespace Scene

def isFree (s : Scene) (thread : ThreadId) : Bool :=
  s.runs.all (fun r => r.thread != thread || r.stage == .finished)

def answer (s : Scene) (target : ThreadId) (result : Result) : Scene :=
  { s with stage := .idle, answers := s.answers ++ [⟨s.captures, target, result⟩] }

def arm (s : Scene) (thread : ThreadId) : Scene :=
  { s with slot := { s.slot with armed := thread } }

def send? (s : Scene) (target : ThreadId) : Sending → Option Scene
  | .queued =>
    if s.exited.contains target then none
    else some { s with stage := .polling target, pending := s.pending ++ [target] }
  | .merged =>
    if s.pending.contains target then some { s with stage := .polling target } else none
  | .refused =>
    if s.exited.contains target then some { s with stage := .failing target } else none

def copyCell (s : Scene) (target : ThreadId) (depth : Nat) (copied : List Cell) : Scene :=
  if copied.length < depth then
    { s with stage := .copying target depth (copied ++ (s.slot.cells[copied.length]?).toList) }
  else s.answer target (.stack copied)

/-- One step of a handler run: a claim, a word, the depth, or the end. -/
def advanceRun (s : Scene) (index : Nat) (r : HandlerRun) : Slot × HandlerRun :=
  match r.stage with
  | .entered =>
    if s.slot.armed = r.thread then
      ({ s.slot with armed := disarmed },
        { r with stage := .writing 0, claimed := some s.captures })
    else (s.slot, { r with stage := .finished })
  | .writing written =>
    match r.stack[written]? with
    | some address =>
      ({ s.slot with cells := s.slot.cells.setIfInBounds written ⟨address, some index⟩ },
        { r with stage := .writing (written + 1) })
    | none => ({ s.slot with depth := r.stack.length }, { r with stage := .depthStored })
  | .depthStored => ({ s.slot with done := true }, { r with stage := .finished })
  | .finished => (s.slot, r)

/-- The scene after a step, if the step is possible. A capture begins when no other is under way,
a thread handles one signal at a time, and it exits between signals. The number of a thread that
has exited may be given to another. -/
def step? (s : Scene) : Step → Option Scene
  | .reset target =>
    match s.stage with
    | .idle =>
      if target = disarmed then none
      else
        some { s with
          stage := .clearing target
          captures := s.captures + 1
          slot := { s.slot with depth := 0 } }
    | _ => none
  | .clear =>
    match s.stage with
    | .clearing target =>
      some { s with stage := .arming target, slot := { s.slot with done := false } }
    | _ => none
  | .arm =>
    match s.stage with
    | .arming target => some { s.arm target with stage := .sending target }
    | _ => none
  | .send sending =>
    match s.stage with
    | .sending target => s.send? target sending
    | _ => none
  | .disarm =>
    match s.stage with
    | .failing target => some ((s.arm disarmed).answer target .refused)
    | _ => none
  | .poll =>
    match s.stage with
    | .polling target => some (if s.slot.done then { s with stage := .measuring target } else s)
    | _ => none
  | .giveUp =>
    match s.stage with
    | .polling target =>
      some (if s.slot.armed = target then (s.arm disarmed).answer target .timeout else s)
    | _ => none
  | .measure =>
    match s.stage with
    | .measuring target => some { s with stage := .copying target (min s.slot.depth maxDepth) [] }
    | _ => none
  | .copy =>
    match s.stage with
    | .copying target depth copied => some (s.copyCell target depth copied)
    | _ => none
  | .handle thread stack =>
    if s.pending.contains thread && s.isFree thread && stack.length ≤ maxDepth then
      some { s with
        pending := s.pending.erase thread
        runs := s.runs ++ [⟨thread, stack, .entered, none⟩] }
    else none
  | .advance index =>
    match s.runs[index]? with
    | some r =>
      some { s with
        slot := (s.advanceRun index r).1
        runs := s.runs.set index (s.advanceRun index r).2 }
    | none => none
  | .exit thread =>
    if s.isFree thread then
      some { s with
        exited := thread :: s.exited
        pending := s.pending.filter (· != thread) }
    else none
  | .spawn thread => some { s with exited := s.exited.filter (· != thread) }

def replay? (s : Scene) : List Step → Option Scene
  | [] => some s
  | step :: rest =>
    match s.step? step with
    | none => none
    | some t => t.replay? rest

theorem replay?_append (s : Scene) (first second : List Step) :
    s.replay? (first ++ second) = (s.replay? first).bind (fun t => t.replay? second) := by
  induction first generalizing s with
  | nil => rfl
  | cons step rest ih =>
    simp only [List.cons_append, replay?]
    split
    · rfl
    · exact ih _

end Scene

end BurstProfiler.Stack.Handshake
