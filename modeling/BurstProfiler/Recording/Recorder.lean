import BurstProfiler.CommandLine.Request
import BurstProfiler.Profiler
import BurstProfiler.Recording.DatabaseFile

/-! Recording a workload: a profiler samples its thread, and when the run is over the profiles
that wait in the global store are written, malformed ones left out. -/

set_option autoImplicit false

namespace BurstProfiler.Recording

open BurstProfiler.CommandLine Schedule

structure Recorder where
  output : Path
  storage : Storage
  workload : Workload
  profiler : Profiler

structure Outcome where
  output : Path
  run : Summary
  written : Nat
  samples : Nat
  deriving DecidableEq, Repr

namespace Recorder

/-- Opens the output and sets up the profiler. What waits in the global store belongs to nobody
and is discarded. -/
def create (file : DatabaseFile) (output : Path) (workload : Workload) (thread : ThreadId)
    (p : Params) (origin : Origin) (global : PendingStore) :
    Except Error (Recorder × PendingStore) :=
  match file.create output.display thread p origin with
  | .error fault => .error (.database fault)
  | .ok storage =>
    .ok (⟨output, storage.setMetadata "workload" workload.name, workload, .create thread p⟩,
      global.drain.2)

def persist (faults : Faults) (s : Storage) (drained : List Profile) :
    Except EngineFault Storage :=
  s.recordAll faults (drained.filter Profile.isValid)

def finish (faults : Faults) (r : Recorder) (run : Summary) (global : PendingStore) :
    Except Error (Outcome × Storage × PendingStore) :=
  if run.unavailable then
    .error (.unsupportedPlatform
      ("no stack capturer for thread " ++ r.profiler.thread.text ++ " on this platform"))
  else
    let (drained, global) := global.drain
    match persist faults r.storage drained with
    | .error fault => .error (.database (.engine fault))
    | .ok storage =>
      .ok (⟨r.output, run, storage.profileCount, storage.sampleCount⟩, storage, global)

end Recorder

end BurstProfiler.Recording
