import BurstProfiler.CommandLine.Grammar
import BurstProfiler.Duration.Reader
import BurstProfiler.Number.Decimal
import BurstProfiler.Params
import BurstProfiler.Path

/-! The program's command line: recording with its options, and the subcommands that read a
recording. -/

set_option autoImplicit false

namespace BurstProfiler.CommandLine

open Number

/-- The built-in code that a recording profiles. -/
inductive Workload where
  | spin
  | recurse
  | sleep
  deriving DecidableEq, Repr

def Workload.name : Workload → String
  | .spin => "spin"
  | .recurse => "recurse"
  | .sleep => "sleep"

def Workload.all : List Workload := [.spin, .recurse, .sleep]

inductive Shell where
  | bash
  | elvish
  | fish
  | powershell
  | zsh
  deriving DecidableEq, Repr

def Shell.name : Shell → String
  | .bash => "bash"
  | .elvish => "elvish"
  | .fish => "fish"
  | .powershell => "powershell"
  | .zsh => "zsh"

def Shell.all : List Shell := [.bash, .elvish, .fish, .powershell, .zsh]

structure TopRequest where
  file : Path
  count : Nat
  threshold : Binary64
  csv : Bool
  deriving DecidableEq, Repr

structure QueryRequest where
  file : Path
  sql : String
  tsv : Bool
  deriving DecidableEq, Repr

inductive Subcommand where
  | top (request : TopRequest)
  | query (request : QueryRequest)
  | completions (shell : Shell)
  deriving DecidableEq, Repr

structure Request where
  subcommand : Option Subcommand
  output : Option Path
  workload : Workload
  params : Params
  logLevel : String
  deriving DecidableEq, Repr

/-- What one level of the command line gives, with the log level if it is given there. -/
structure Level (α : Type) where
  value : α
  logLevel : Option String

variable {α : Type}

def readText (set : String → α → α) : Reader (Level α) :=
  fun text level => .ok { level with value := set text level.value }

def readPath (set : Path → α → α) : Reader (Level α) := fun text level =>
  if text.isEmpty then .error .notAllowed
  else .ok { level with value := set (.ofString text) level.value }

def readChoice {β : Type} (all : List β) (name : β → String) (set : β → α → α) :
    Reader (Level α) := fun text level =>
  match all.find? (fun b => name b == text) with
  | some b => .ok { level with value := set b level.value }
  | none => .error .notAllowed

def invalidDuration (text : String) : String :=
  "Invalid duration '" ++ text ++ "'. Examples: 100ms, 30s, 5m, 1h30m, 90"

def readDuration (set : Duration → α → α) : Reader (Level α) := fun text level =>
  match Duration.read text.toList with
  | .ok d => .ok { level with value := set d level.value }
  | .error .malformed => .error (.rejected (invalidDuration text))
  | .error .fullSecondCarry => .error (.crash "overflow in Duration::new")

/-- A count that fits 32 bits. It is read as a signed number first. -/
def readCount (set : UInt32 → α → α) : Reader (Level α) := fun text level =>
  match readSigned 10 9_223_372_036_854_775_807 text.toList with
  | .error fault => .error (.rejected fault.message)
  | .ok n =>
    if 0 ≤ n ∧ n ≤ 4294967295 then
      .ok { level with value := set (UInt32.ofNat n.toNat) level.value }
    else .error (.rejected (toString n ++ " is not in 0..=4294967295"))

def readSize (set : Nat → α → α) : Reader (Level α) := fun text level =>
  match readWord 10 text.toList with
  | .error fault => .error (.rejected fault.message)
  | .ok n => .ok { level with value := set n level.value }

def readNumber (set : Binary64 → α → α) : Reader (Level α) := fun text level =>
  match readDecimal text.toList with
  | .error fault => .error (.rejected fault.message)
  | .ok x => .ok { level with value := set x level.value }

def valued (long : String) (short : Option Char) (read : Reader (Level α)) : Opt (Level α) :=
  let shown := String.ofList (long.toList.map (fun c => if c = '-' then '_' else c.toUpper))
  ⟨long, short, "--" ++ long ++ " <" ++ shown ++ ">", .value read⟩

def switched (long : String) (turnOn : α → α) : Opt (Level α) :=
  ⟨long, none, "--" ++ long, .flag (fun level => { level with value := turnOn level.value })⟩

def everywhere : List (Opt (Level α)) :=
  [valued "log-level" none (fun text level => .ok { level with logLevel := some text }),
    ⟨"help", some 'h', "--help", .help⟩]

def topGrammar : Grammar (Level TopRequest) where
  options := [
    valued "top" (some 'n') (readSize (fun n r => { r with count := n })),
    valued "threshold" (some 't') (readNumber (fun x r => { r with threshold := x })),
    switched "csv" (fun r => { r with csv := true })] ++ everywhere
  positionals := [⟨"<FILE>", readPath (fun p r => { r with file := p })⟩]
  subcommands := []

def queryGrammar : Grammar (Level QueryRequest) where
  options := [switched "tsv" (fun r => { r with tsv := true })] ++ everywhere
  positionals := [
    ⟨"<FILE>", readPath (fun p r => { r with file := p })⟩,
    ⟨"<SQL>", readText (fun sql r => { r with sql := sql })⟩]
  subcommands := []

def completionsGrammar : Grammar (Level Shell) where
  options := everywhere
  positionals := [⟨"<SHELL>", readChoice Shell.all Shell.name (fun shell _ => shell)⟩]
  subcommands := []

structure RecordingRequest where
  output : Option Path
  workload : Workload
  params : Params

def rootGrammar : Grammar (Level RecordingRequest) where
  options := [
    valued "output" (some 'o') (readPath (fun p r => { r with output := some p })),
    valued "workload" (some 'w')
      (readChoice Workload.all Workload.name (fun w r => { r with workload := w })),
    valued "initial-delay" none
      (readDuration (fun d r => { r with params := { r.params with initialDelay := d } })),
    valued "bursts" (some 'b')
      (readCount (fun n r => { r with params := { r.params with bursts := n } })),
    valued "burst-interval" none
      (readDuration (fun d r => { r with params := { r.params with burstInterval := d } })),
    valued "samples" (some 'n')
      (readCount (fun n r => { r with params := { r.params with samplesPerBurst := n } })),
    valued "interval" (some 'i')
      (readDuration (fun d r => { r with params := { r.params with samplingInterval := d } })),
    switched "preserve-order"
      (fun r => { r with params := { r.params with preservesOrder := true } }),
    ⟨"version", some 'V', "--version", .version⟩] ++ everywhere
  positionals := []
  subcommands := ["top", "query", "completions"]

def readSubcommand (name : String) (arguments : List String) :
    Except UsageFault (Subcommand × Option String) :=
  if name = "top" then
    (topGrammar.read ⟨⟨⟨[]⟩, 20, .zero, false⟩, none⟩ arguments).map
      (fun level => (.top level.value, level.logLevel))
  else if name = "query" then
    (queryGrammar.read ⟨⟨⟨[]⟩, "", false⟩, none⟩ arguments).map
      (fun level => (.query level.value, level.logLevel))
  else
    (completionsGrammar.read ⟨.bash, none⟩ arguments).map
      (fun level => (.completions level.value, level.logLevel))

/-- Reads an argument list. The faults of a subcommand's arguments come before those of a value
that is pending in front of it. -/
def Request.read (arguments : List String) : Except UsageFault Request := do
  let (s, subcommand?) ← rootGrammar.scan false
    (.start ⟨⟨none, .spin, .standard⟩, none⟩) arguments
  let read ← subcommand?.mapM (fun (name, rest) => readSubcommand name rest)
  let level ← rootGrammar.finish s
  pure {
    subcommand := read.map Prod.fst
    output := level.value.output
    workload := level.value.workload
    params := level.value.params
    logLevel := ((read.bind Prod.snd) <|> level.logLevel).getD "warn" }

def versionText : String := "stackprof 0.1.0\n"

def maxSamplesPerBurst : Nat := 100000

def minSamplingInterval : Duration := .ofMillis 1

inductive PlanFault where
  | tooManySamples (samples : Nat)
  | intervalTooShort (interval : Duration)
  deriving DecidableEq, Repr

def PlanFault.message : PlanFault → String
  | .tooManySamples samples =>
    "Samples per burst must be at most " ++ toString maxSamplesPerBurst ++ ", got " ++
      toString samples
  | .intervalTooShort interval =>
    "Sampling interval must be at least " ++ minSamplingInterval.text ++
      " when taking more than one sample, got " ++ interval.text

def Request.planFault? (r : Request) : Option PlanFault :=
  if r.subcommand.isSome then none
  else if maxSamplesPerBurst < r.params.samplesPerBurst.toNat then
    some (.tooManySamples r.params.samplesPerBurst.toNat)
  else if 1 < r.params.samplesPerBurst.toNat ∧
      r.params.samplingInterval.nanos < minSamplingInterval.nanos then
    some (.intervalTooShort r.params.samplingInterval)
  else none

end BurstProfiler.CommandLine
