import BurstProfiler.Duration.Decimal
import BurstProfiler.Path

/-! What can go wrong: the faults of capturing, of reading modules and of the recording's
database, with their messages, exit codes and whether sampling may go on after them. -/

set_option autoImplicit false

namespace BurstProfiler

inductive EngineFault where
  | cannotOpen (path : String)
  | notADatabase
  | missingTable (name : String)
  | tableExists (name : String)
  | integerOverflow
  | forcedFailure
  | nullColumn (table column : String)
  | triggerExists (name : String)
  | badToken (token statement : String) (offset : Nat)
  | missingColumn (name statement : String) (offset : Nat)
  | unknownToken (token statement : String) (offset : Nat)
  | incompleteStatement
  | nothingToRun
  deriving DecidableEq, Repr

namespace EngineFault

def placeText (statement : String) (offset : Nat) : String :=
  " in " ++ statement ++ " at offset " ++ toString offset

def message : EngineFault → String
  | .cannotOpen path => "unable to open database file: " ++ path
  | .notADatabase => "file is not a database"
  | .missingTable name => "no such table: " ++ name
  | .tableExists name => "table " ++ name ++ " already exists"
  | .integerOverflow => "integer overflow"
  | .forcedFailure => "forced failure"
  | .nullColumn table column => "NOT NULL constraint failed: " ++ table ++ "." ++ column
  | .triggerExists name => "trigger " ++ name ++ " already exists"
  | .badToken token statement offset =>
    "near \"" ++ token ++ "\": syntax error" ++ placeText statement offset
  | .missingColumn name statement offset => "no such column: " ++ name ++ placeText statement offset
  | .unknownToken token statement offset =>
    "unrecognized token: \"" ++ token ++ "\"" ++ placeText statement offset
  | .incompleteStatement => "incomplete input"
  | .nothingToRun => "not an error"

def classText : EngineFault → String
  | .cannotOpen _ => "Error code 14: Unable to open the database file"
  | .notADatabase => "Error code 26: File opened that is not a database file"
  | .forcedFailure | .nullColumn _ _ => "Error code 19: Constraint failed"
  | .nothingToRun => "Error code 21: Library used incorrectly"
  | _ => "Error code 1: SQL error or missing database"

end EngineFault

inductive DatabaseFault where
  | noRows
  | unknownColumn (name : String)
  /-- A column of whole numbers holds a real number. -/
  | realColumn (index : Nat) (name : String)
  | parameterCount (needed : Nat)
  | engine (fault : EngineFault)
  deriving DecidableEq, Repr

def DatabaseFault.message : DatabaseFault → String
  | .noRows => "Query returned no rows"
  | .unknownColumn name => "Invalid column name: " ++ name
  | .realColumn index name =>
    "Invalid column type Real at index: " ++ toString index ++ ", name: " ++ name
  | .parameterCount needed =>
    "Wrong number of parameters passed to query. Got 0, needed " ++ toString needed
  | .engine fault => fault.message

inductive Error where
  | threadNotFound (detail : String)
  | capture (detail : String)
  | timeout (after : Duration)
  | unsupportedPlatform (detail : String)
  | invalidArgument (detail : String)
  | invalidProfile (detail : String)
  | moduleParse (path : Path) (reason : String)
  | database (fault : DatabaseFault)
  | io (detail : String)
  deriving DecidableEq, Repr

namespace Error

def message : Error → String
  | .threadNotFound detail => "Thread not found: " ++ detail
  | .capture detail => "Stack capture failed: " ++ detail
  | .timeout after => "Stack capture timed out after " ++ after.inspect
  | .unsupportedPlatform detail => "Unsupported platform: " ++ detail
  | .invalidArgument detail => "Invalid argument: " ++ detail
  | .invalidProfile detail => "Invalid profile: " ++ detail
  | .moduleParse path reason => "Module parse error in " ++ path.display ++ ": " ++ reason
  | .database fault => "Database error: " ++ fault.message
  | .io detail => "I/O error: " ++ detail

def exitCode : Error → Nat
  | .threadNotFound _ => 3
  | .unsupportedPlatform _ => 4
  | .invalidArgument _ => 2
  | .database _ => 6
  | _ => 1

/-- A fault of one capture, after which the burst goes on. -/
def isTransient : Error → Bool
  | .threadNotFound _ | .capture _ | .timeout _ => true
  | _ => false

end Error

end BurstProfiler
