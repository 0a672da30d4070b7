import BurstProfiler.Schedule.Run

/-! Scripts for a capturer: what each capture answers, and at which points a stop is requested. -/

set_option autoImplicit false

namespace BurstProfiler.Rehearsal

inductive Reference where
  | unresolved
  | index (n : Nat)
  | module (m : Module)
  deriving DecidableEq, Repr

inductive Cue where
  | answers (frames : List (UInt64 × Reference))
  | fails (error : Error)
  | breaksOff (message : String)
  deriving DecidableEq, Repr

/-- Where the capturer requests a stop: when it is created, in captures by their number in the
run, and in the hooks before and after bursts by the burst's number. -/
structure StopPoints where
  creation : Bool
  calls : List Nat
  starts : List Nat
  ends : List Nat
  deriving DecidableEq, Repr

structure Script where
  available : Bool
  cues : Array Cue
  stops : StopPoints
  /-- A gated capture waits until it is released or a stop is requested. -/
  gated : Bool

/-- The cue of a capture; the cues repeat, and without any a capture answers an empty stack. -/
def Script.cue (s : Script) (call : Nat) : Cue :=
  (s.cues[call % s.cues.size]?).getD (.answers [])

/-- The frames of a cue with the modules they meet, the table at hand deciding the indices. -/
def placeFrames (table : ModuleTable) : List (UInt64 × Reference) → List Module × Sample
  | [] => ([], [])
  | (address, .unresolved) :: rest =>
    let (met, sample) := placeFrames table rest
    (met, ⟨address, none⟩ :: sample)
  | (address, .index n) :: rest =>
    let (met, sample) := placeFrames table rest
    (met, ⟨address, some n⟩ :: sample)
  | (address, .module m) :: rest =>
    let (index, table) := table.intern m
    let (met, sample) := placeFrames table rest
    (m :: met, ⟨address, some index⟩ :: sample)

def Cue.event (cue : Cue) (table : ModuleTable) : Schedule.Event :=
  match cue with
  | .answers frames =>
    let (met, sample) := placeFrames table frames
    .captured met (.ok sample)
  | .fails error => .captured [] (.error error)
  | .breaksOff message => .broke message

end BurstProfiler.Rehearsal
