import BurstProfiler.Error

/-! What a command leaves behind: its exit code and its two outputs. A failure names its context,
the fault and what the database engine says about it, each behind a colon. -/

set_option autoImplicit false

namespace BurstProfiler.Command

structure Outcome where
  exitCode : Nat
  output : String
  errors : String
  deriving DecidableEq, Repr

structure Failure where
  context : Option String
  error : Error
  deriving DecidableEq, Repr

def causes : Error → List String
  | .database (.engine fault) => [fault.message, fault.classText]
  | .database fault => [fault.message]
  | .io detail => [detail]
  | _ => []

def Failure.message (f : Failure) : String :=
  ": ".intercalate (f.context.toList ++ f.error.message :: causes f.error)

def Outcome.success (output : String) : Outcome := ⟨0, output, ""⟩

def Outcome.failure (f : Failure) : Outcome :=
  ⟨f.error.exitCode, "", "Error: " ++ f.message ++ "\n"⟩

def Outcome.ofReport (context : Option String) : Except DatabaseFault String → Outcome
  | .ok text => .success text
  | .error fault => .failure ⟨context, .database fault⟩

end BurstProfiler.Command
