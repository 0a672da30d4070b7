/-! Records of comma-separated fields, one a line. A field in quotes may hold commas, line breaks
and quotes, each of these written twice. -/

set_option autoImplicit false

namespace BurstProfiler.Report.Csv

def escape : List Char → List Char
  | [] => []
  | c :: rest => if c = '"' then '"' :: '"' :: escape rest else c :: escape rest

def quoted (field : List Char) : List Char := ['"'] ++ escape field ++ ['"']

inductive Mode where
  | start
  | bare
  | inQuotes
  /-- Behind a quote inside quotes: the field ends here, or the quote is the first of two. -/
  | afterQuote
  deriving DecidableEq, Repr

/-- Reads records; `field` is the present field and `record` its finished neighbours, both in
reverse. A line feed, alone or behind a carriage return, ends a record. -/
def readFrom (mode : Mode) (field : List Char) (record : List (List Char)) :
    List Char → Option (List (List (List Char)))
  | [] =>
    match mode with
    | .inQuotes => none
    | .start =>
      if record.isEmpty then some [] else some [((field.reverse) :: record).reverse]
    | .bare | .afterQuote => some [((field.reverse) :: record).reverse]
  | c :: rest =>
    match mode with
    | .inQuotes =>
      if c = '"' then readFrom .afterQuote field record rest
      else readFrom .inQuotes (c :: field) record rest
    | .afterQuote =>
      if c = '"' then readFrom .inQuotes ('"' :: field) record rest
      else if c = ',' then readFrom .start [] (field.reverse :: record) rest
      else if c = '\n' then
        (readFrom .start [] [] rest).map ((field.reverse :: record).reverse :: ·)
      else if c = '\r' ∧ rest.head? = some '\n' then readFrom .afterQuote field record rest
      else none
    | .start | .bare =>
      if c = ',' then readFrom .start [] (field.reverse :: record) rest
      else if c = '\n' then
        (readFrom .start [] [] rest).map ((field.reverse :: record).reverse :: ·)
      else if c = '\r' ∧ rest.head? = some '\n' then readFrom .bare field record rest
      else if c = '"' then
        if mode = .start then readFrom .inQuotes field record rest else none
      else readFrom .bare (c :: field) record rest

/-- The records of a text; none if a quote is out of place. -/
def read (text : List Char) : Option (List (List (List Char))) := readFrom .start [] [] text

end BurstProfiler.Report.Csv
