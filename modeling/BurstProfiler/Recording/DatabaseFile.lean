import BurstProfiler.Recording.Statements
import BurstProfiler.Recording.Storage
import BurstProfiler.Report.HotFrames
import BurstProfiler.Report.QueryResult

/-! What is found at the path of a database, and what the reports on it answer. -/

set_option autoImplicit false

namespace BurstProfiler.Recording

open BurstProfiler.Report

inductive DatabaseFile where
  /-- No file, or one without tables; opening it makes an empty database. -/
  | empty
  | recording (tables : Tables)
  | foreign
  | unusable
  deriving DecidableEq, Repr

/-- The answers that are known beforehand: the statement and its result. -/
abbrev KnownResults := List (String × QueryResult)

namespace DatabaseFile

def tableNames : List String :=
  ["meta", "profiles", "modules", "profile_modules", "samples", "frames"]

def hotFrames (file : DatabaseFile) (path : String) (s : Selection) :
    Except DatabaseFault String :=
  match file with
  | .empty => .error (.engine (.missingTable "samples"))
  | .foreign => .error (.engine .notADatabase)
  | .unusable => .error (.engine (.cannotOpen path))
  | .recording tables => hotFramesReport path tables s

/-- The report on a query. A statement without a known result is only checked; only one that
names a table looks into the file. -/
def query (file : DatabaseFile) (path sql : String) (known : KnownResults) (tsv : Bool) :
    Except DatabaseFault String :=
  let answer := fun (tables : List String) =>
    match known.find? (fun entry => entry.1 == sql) with
    | some (_, result) => Except.ok (result.listing.report tsv)
    | none =>
      match statementFault? tables sql with
      | some fault => .error fault
      | none => .ok ((⟨[], []⟩ : QueryResult).listing.report tsv)
  match file with
  | .unusable => .error (.engine (.cannotOpen path))
  | .empty => answer []
  | .foreign =>
    match answer [] with
    | .error (.engine (.missingTable _)) => .error (.engine .notADatabase)
    | result => result
  | .recording _ => answer tableNames

def create (file : DatabaseFile) (path : String) (thread : ThreadId) (p : Params)
    (origin : Origin) : Except DatabaseFault Storage :=
  match file with
  | .unusable => .error (.engine (.cannotOpen path))
  | .foreign => .error (.engine .notADatabase)
  | .empty => (Storage.createOver .empty thread p origin).mapError .engine
  | .recording tables => (Storage.createOver (.ofTables tables) thread p origin).mapError .engine

theorem eq_of_create {file : DatabaseFile} {path : String} {thread : ThreadId} {p : Params}
    {origin : Origin} {s : Storage} (opened : file.create path thread p origin = .ok s) :
    s = .create thread p origin := by
  cases file with
  | foreign | unusable => cases opened
  | empty | recording =>
    simp only [create, Storage.createOver_eq] at opened
    cases opened
    rfl

end DatabaseFile

end BurstProfiler.Recording
