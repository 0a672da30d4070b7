import BurstProfiler.Error
import BurstProfiler.Instant
import BurstProfiler.Params
import BurstProfiler.Profile.Builder

/-! A sampling run as a machine. Its phases lie between the things a run does: creating the
capturer, waiting for a burst, the hook before a burst, waiting for a slot, one capture, the hook
after a burst, publishing the profile, completing. Its events say what came out of each.

Due times are absolute: burst `n` is due `n` burst intervals after the first, and slot `k` of a
burst `k` sampling intervals after the burst's start, however late earlier ones were. -/

set_option autoImplicit false

namespace BurstProfiler.Schedule

inductive State where
  | idle
  | awaitingInitialDelay
  | inBurst
  | awaitingBurstInterval
  | stopping
  | stopped
  | finished
  deriving DecidableEq, Repr

/-- The run is over and its profiles are delivered. -/
def State.isTerminal : State → Bool
  | .stopped | .finished => true
  | _ => false

/-- The counters of a run. Skipped slots are those whose capture failed; errors are the skipped
slots whose failure was not transient. -/
structure Summary where
  profiles : Nat
  samples : Nat
  skipped : Nat
  errors : Nat
  stopped : Bool
  unavailable : Bool
  deriving DecidableEq, Repr

def Summary.zero : Summary := ⟨0, 0, 0, 0, false, false⟩

/-- A burst that is due; a target that is no instant is never reached. -/
structure Burst where
  index : Nat
  target : Option Instant
  deriving DecidableEq, Repr

/-- A burst that is being recorded, before or in its slot. -/
structure Recording where
  burst : Burst
  started : Instant
  slot : Nat
  builder : Profile.Builder

inductive Phase where
  | creating
  | awaitingBurst (burst : Burst)
  | starting (burst : Burst)
  | awaitingSlot (recording : Recording)
  | capturing (recording : Recording)
  | closing (recording : Recording) (interrupted : Bool)
  | publishing (burst : Burst) (profile : Profile) (interrupted : Bool)
  | completing
  | ended
  /-- A hook, a capture or the callback broke off and took the run with it. -/
  | broken (message : String)

structure Run where
  phase : Phase
  state : State
  summary : Summary

inductive Event where
  | created (available : Bool) (now : Instant)
  | awoke (stopped : Bool) (now : Instant)
  | started (now : Instant)
  /-- A capture returned; the modules it met are in the order it met them. -/
  | captured (met : List Module) (result : Except Error Sample)
  | closed (now : Instant)
  | published
  | completed
  | broke (message : String)

def Burst.first (p : Params) (now : Instant) : Burst := ⟨0, now.add? p.initialDelay⟩

def Burst.next (p : Params) (b : Burst) : Burst :=
  ⟨b.index + 1, b.target.bind (fun t => t.add? p.burstInterval)⟩

/-- When the recording's slot is due; none if that is no instant. -/
def Recording.due? (p : Params) (r : Recording) : Option Instant :=
  (p.samplingInterval.scale? r.slot).bind r.started.add?

def Recording.begin (p : Params) (b : Burst) (now : Instant) : Recording :=
  ⟨b, now, 0, .start p.samplingInterval p.preservesOrder⟩

def Recording.profile (r : Recording) (now : Instant) : Profile :=
  r.builder.finish (now.since r.started)

def internAll (table : ModuleTable) (met : List Module) : ModuleTable :=
  met.foldl (fun table m => (table.intern m).2) table

def Recording.afterCapture (r : Recording) (met : List Module) (result : Except Error Sample) :
    Recording :=
  let builder := { r.builder with table := internAll r.builder.table met }
  match result with
  | .ok sample => { r with slot := r.slot + 1, builder := builder.push sample }
  | .error _ => { r with slot := r.slot + 1, builder := builder }

def Summary.afterCapture (s : Summary) : Except Error Sample → Summary
  | .ok _ => s
  | .error e =>
    if e.isTransient then { s with skipped := s.skipped + 1 }
    else { s with skipped := s.skipped + 1, errors := s.errors + 1 }

namespace Run

def fresh : Run := ⟨.creating, .idle, .zero⟩

def conclude (r : Run) : Run :=
  { r with
    phase := .completing
    state := if r.summary.stopped then .stopping else r.state }

/-- Goes on to a burst, or to the end if there are no more. -/
def enterBurst (p : Params) (r : Run) (b : Burst) : Run :=
  if b.index < p.bursts.toNat then
    { r with
      phase := .awaitingBurst b
      state := if b.index = 0 then .awaitingInitialDelay else .awaitingBurstInterval }
  else r.conclude

def slotPhase (p : Params) (r : Recording) : Phase :=
  if r.slot < p.samplesPerBurst.toNat then .awaitingSlot r else .closing r false

def halt (r : Run) : Run := { r with summary := { r.summary with stopped := true } }

/-- A wait may end without a stop only at or after its deadline. -/
def mayAwake (stopped : Bool) (now : Instant) (deadline : Option Instant) : Bool :=
  stopped ||
    match deadline with
    | some d => d ≤ now
    | none => false

def step? (p : Params) (r : Run) (event : Event) : Option Run :=
  match r.phase, event with
  | .creating, .created true now => some (r.enterBurst p (.first p now))
  | .creating, .created false _ =>
    some (conclude { r with summary := { r.summary with unavailable := true } })
  | .awaitingBurst b, .awoke stopped now =>
    if mayAwake stopped now b.target then
      if stopped then some r.halt.conclude
      else some { r with phase := .starting b, state := .inBurst }
    else none
  | .starting b, .started now =>
    some { r with phase := slotPhase p (.begin p b now) }
  | .awaitingSlot recording, .awoke stopped now =>
    if mayAwake stopped now (recording.due? p) then
      if stopped then some { r with phase := .closing recording true }
      else some { r with phase := .capturing recording }
    else none
  | .capturing recording, .captured met result =>
    some { r with
      phase := slotPhase p (recording.afterCapture met result)
      summary := r.summary.afterCapture result }
  | .closing recording interrupted, .closed now =>
    some { r with phase := .publishing recording.burst (recording.profile now) interrupted }
  | .publishing b profile interrupted, .published =>
    let r := { r with
      summary := { r.summary with
        profiles := r.summary.profiles + 1
        samples := r.summary.samples + profile.samples.length } }
    if interrupted then some r.halt.conclude else some (r.enterBurst p (b.next p))
  | .completing, .completed =>
    some { r with
      phase := .ended
      state := if r.summary.stopped then .stopped else .finished }
  | .creating, .broke message | .starting _, .broke message | .capturing _, .broke message
  | .closing _ _, .broke message | .completing, .broke message =>
    some { r with phase := .broken message }
  | _, _ => none

def isOver (r : Run) : Bool :=
  match r.phase with
  | .ended | .broken _ => true
  | _ => false

def result? (r : Run) : Option Summary :=
  match r.phase with
  | .ended => some r.summary
  | _ => none

def deadline? (p : Params) (r : Run) : Option Instant :=
  match r.phase with
  | .awaitingBurst b => b.target
  | .awaitingSlot recording => recording.due? p
  | _ => none

end Run

end BurstProfiler.Schedule
