import BurstProfiler.Command.Outcome
import BurstProfiler.Recording.Recorder
import BurstProfiler.Rehearsal.Stage

/-! The recording command: what it tells while it runs, and the recording it leaves. The workload
is played by a script, on the global store. -/

set_option autoImplicit false

namespace BurstProfiler.Command

open BurstProfiler.CommandLine BurstProfiler.Recording BurstProfiler.Rehearsal

/-- A workload as the profiler meets it: its thread and what captures of it answer. -/
structure Target where
  thread : ThreadId
  script : Script

structure Played where
  outcome : Recording.Outcome
  storage : Storage
  global : PendingStore

def play (r : Recorder) (script : Script) (stopFirst : Bool) (global : PendingStore) :
    Except Error Played :=
  let actor : Actor := { Actor.create r.profiler.thread r.profiler.session.params script with
    profiler := if stopFirst then r.profiler.stop else r.profiler }
  match actor.profiler.start with
  | .error misuse => .error (.invalidArgument misuse.message)
  | .ok profiler =>
    let stage := { Stage.ofActors [({ actor with profiler := profiler }, .global)] with
      global := global }
    let stage := stage.join 0
    let run := ((stage.actor? 0).bind (·.profiler.summary)).getD .zero
    match r.finish .none run stage.global with
    | .error error => .error error
    | .ok (outcome, storage, global) => .ok ⟨outcome, storage, global⟩

def startText (r : Request) (thread : ThreadId) (output : Path) : String :=
  "Profiling " ++ r.workload.name ++ " workload (thread " ++ thread.text ++ ")\nSampling: " ++
    r.params.describe ++ "\nOutput: " ++ output.display ++ "\n" ++
    (match r.params.nominal? with
      | some d => "Recording for up to " ++ d.text ++ " (Ctrl-C to stop)...\n"
      | none => "Recording, unbounded (Ctrl-C to stop)...\n")

def endText (outcome : Recording.Outcome) : String :=
  (if outcome.run.stopped then "Stopped early.\n" else "") ++
    "Recording complete. Profiles: " ++ toString outcome.written ++ ", samples: " ++
    toString outcome.samples ++ ", skipped slots: " ++ toString outcome.run.skipped ++
    "\nInspect with: stackprof top " ++ outcome.output.display ++ "\n"

def record (file : DatabaseFile) (request : Request) (output : Path) (target : Target)
    (origin : Origin) : Outcome × Option Storage :=
  match Recorder.create file output request.workload target.thread request.params origin .empty with
  | .error error => (.failure ⟨some ("Failed to create " ++ output.display), error⟩, none)
  | .ok (recorder, global) =>
    let begun := startText request target.thread output
    match play recorder target.script false global with
    | .error error =>
      let failed := Outcome.failure ⟨none, error⟩
      ({ failed with errors := begun ++ failed.errors }, some recorder.storage)
    | .ok played =>
      (⟨0, "", begun ++ endText played.outcome⟩, some played.storage)

end BurstProfiler.Command
