import BurstProfiler.Command

/-! The program as a process: it looks at the file that its arguments name, runs, prints and
answers the exit code. It captures no stacks itself, so a recording finds no target, and it reads
no database from a file: a file with content counts as none. -/

set_option autoImplicit false

namespace BurstProfiler.Command

open BurstProfiler.CommandLine BurstProfiler.Recording BurstProfiler.Rehearsal

/-- Whether a path names a directory: reading its `.` finds something that cannot be read. -/
def isDirectory (path : String) : IO Bool := do
  match ← (IO.FS.readBinFile (path ++ "/.")).toBaseIO with
  | .error (.noFileOrDirectory _ _ _) => return false
  | _ => return true

def parentOf (path : String) : String :=
  match (path.toList.reverse.dropWhile (· != '/')).reverse with
  | [] => "."
  | parent => String.ofList parent

def findFile (path : String) : IO DatabaseFile := do
  match ← (IO.FS.readBinFile path).toBaseIO with
  | .ok bytes => return if bytes.isEmpty then .empty else .foreign
  | .error (.noFileOrDirectory _ _ _) =>
    return if ← isDirectory (parentOf path) then .empty else .unusable
  | .error _ => return .unusable

def defaultOutput (time : Nat) (workload : Workload) : Path :=
  .ofString ("stackprof." ++ workload.name ++ "." ++ toString time ++ ".db")

def finish : Ending → IO UInt32
  | .refused .help => return 0
  | .refused fault => do
    IO.eprintln ("error: " ++ fault.message)
    return if fault.isCrash then 101 else 2
  | .completions _ => return 0
  | .done outcome _ => do
    IO.print outcome.output
    IO.eprint outcome.errors
    return UInt32.ofNat outcome.exitCode

end BurstProfiler.Command

open BurstProfiler BurstProfiler.Command in
def main (arguments : List String) : IO UInt32 := do
  let time ← IO.monoMsNow
  let thread ← IO.getTID
  let requested := ((CommandLine.Request.read arguments).toOption).bind
    (requestedFile? (defaultOutput time))
  let found ← match requested with
    | some path => findFile path.display
    | none => pure .empty
  let target : Target := ⟨⟨thread.toNat⟩, ⟨false, #[], ⟨false, [], [], []⟩, false⟩⟩
  finish (run ⟨fun _ => found, [], target, ⟨toString thread, toString time⟩,
    defaultOutput time⟩ arguments)
