import BurstProfiler.Command.Record

/-! The program: its arguments, the files it finds and the target it can profile decide what it
prints and how it ends. -/

set_option autoImplicit false

namespace BurstProfiler.Command

open BurstProfiler.CommandLine BurstProfiler.Recording BurstProfiler.Report

structure World where
  files : Path → DatabaseFile
  known : KnownResults
  target : Target
  origin : Origin
  defaultOutput : Workload → Path

def requestedFile? (defaultOutput : Workload → Path) (r : Request) : Option Path :=
  match r.subcommand with
  | some (.top t) => some t.file
  | some (.query q) => some q.file
  | some (.completions _) => none
  | none => some (r.output.getD (defaultOutput r.workload))

/-- How a run of the program ends. Arguments that are refused, help texts and completion scripts
are left to whoever prints them. -/
inductive Ending where
  | refused (fault : UsageFault)
  | completions (shell : Shell)
  | done (outcome : Outcome) (made : Option (Path × Storage))

def invalidArguments (fault : PlanFault) : Outcome :=
  ⟨2, "", "Error: Invalid arguments: " ++ fault.message ++ "\n"⟩

def perform (w : World) (r : Request) : Ending :=
  match r.planFault? with
  | some fault => .done (invalidArguments fault) none
  | none =>
    match r.subcommand with
    | some (.top t) =>
      let path := t.file.display
      .done (.ofReport (some ("Failed to read " ++ path))
        ((w.files t.file).hotFrames path ⟨t.count, t.threshold, t.csv⟩)) none
    | some (.query q) =>
      .done (.ofReport none ((w.files q.file).query q.file.display q.sql w.known q.tsv)) none
    | some (.completions shell) => .completions shell
    | none =>
      let output := r.output.getD (w.defaultOutput r.workload)
      let (outcome, made) := record (w.files output) r output w.target w.origin
      .done outcome (made.map (fun storage => (output, storage)))

def run (w : World) (arguments : List String) : Ending :=
  match Request.read arguments with
  | .ok request => perform w request
  | .error .version => .done (.success versionText) none
  | .error fault => .refused fault

end BurstProfiler.Command
