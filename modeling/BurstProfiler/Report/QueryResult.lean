import BurstProfiler.Number.Binary64
import BurstProfiler.Report.Table

/-! The result of a query: columns and rows of typed values, printed as a table or as lines of
fields with tabs between them. -/

set_option autoImplicit false

namespace BurstProfiler.Report

open BurstProfiler.Number

inductive Value where
  | null
  | integer (n : Int)
  | real (x : Binary64)
  | text (text : String)
  | blob (size : Nat)
  deriving DecidableEq, Repr

/-- A stored real; what is no number is stored as null. -/
def Value.ofReal (x : Binary64) : Value :=
  match x.read with
  | .notANumber => .null
  | _ => .real x

def Value.render : Value → List Char
  | .null => "NULL".toList
  | .integer n => (toString n).toList
  | .real x => x.fixedText 6
  | .text t => t.toList
  | .blob size => "<blob ".toList ++ Nat.toDigits 10 size ++ " bytes>".toList

/-- What a statement steps through: the names of its columns, and step by step what it has in
them. -/
structure QueryResult where
  columns : List String
  steps : List (List Value)
  deriving DecidableEq, Repr

/-- What is read of a result: in every row a value for every column. -/
structure Listing where
  columns : List String
  rows : List (List Value)
  even : ∀ row ∈ rows, row.length = columns.length
  deriving DecidableEq, Repr

/-- Reads every step from the first column to the last. What a step does not have is null. -/
def QueryResult.listing (r : QueryResult) : Listing where
  columns := r.columns
  rows := r.steps.map (fun step =>
    (List.range r.columns.length).map (fun i => step[i]?.getD .null))
  even := by
    intro row member
    obtain ⟨step, -, rfl⟩ := List.mem_map.1 member
    exact (List.length_map _).trans List.length_range

namespace Listing

-- Of steps that are as wide as the header everything is read.
theorem listing_of_rows (l : Listing) : (⟨l.columns, l.rows⟩ : QueryResult).listing = l := by
  obtain ⟨columns, rows, even⟩ := l
  simp only [QueryResult.listing, mk.injEq, true_and]
  refine (List.map_congr_left fun row member => ?_).trans (List.map_id rows)
  have width : (List.range columns.length).length = row.length :=
    List.length_range.trans (even row member).symm
  apply List.ext_getElem
  · simpa only [List.length_map, id_eq] using width
  · intro i inside there
    simp only [List.getElem_map, List.getElem_range, id_eq]
    have value : row[i]? = some row[i] := List.getElem?_eq_getElem there
    rw [value, Option.getD_some]

def fields (l : Listing) : List (List (List Char)) :=
  l.columns.map String.toList :: l.rows.map (fun row => row.map Value.render)

def tabbedLine (fields : List (List Char)) : List Char := ['\t'].intercalate fields ++ ['\n']

def tabbed (l : Listing) : List Char := l.fields.flatMap tabbedLine

def readTabbed (text : List Char) : List (List (List Char)) :=
  (Text.lines text).map (Text.splitAt '\t')

def table (l : Listing) : Table where
  style := .markdown
  header := l.columns.map Cell.ofString
  rows := l.rows.map (fun row => row.map (fun v => ⟨v.render, .left⟩))

def report (l : Listing) (tsv : Bool) : String :=
  String.ofList (if tsv then l.tabbed else l.table.text ++ ['\n'])

end Listing

end BurstProfiler.Report
