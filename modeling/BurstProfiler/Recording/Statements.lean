import BurstProfiler.Error
import BurstProfiler.Number.Decimal

/-! What the database engine finds wrong with a statement before it runs it. Only statements that
select from one table or none are looked into. -/

set_option autoImplicit false

namespace BurstProfiler.Recording

structure Token where
  text : String
  offset : Nat
  deriving DecidableEq, Repr

def isNameChar (c : Char) : Bool := c.isAlphanum || c == '_' || c == '$' || 0x80 ≤ c.toNat

def isSqlBlank (c : Char) : Bool :=
  c == ' ' || c == '\t' || c == '\n' || c == '\x0c' || c == '\r'

def byteLength (text : List Char) : Nat := (text.map Char.utf8Size).foldr (· + ·) 0

def tokenLength (text : List Char) : Nat :=
  match text with
  | [] => 0
  | c :: rest =>
    if isNameChar c then (text.takeWhile (fun c => isNameChar c || c == '.')).length
    else if c = '\'' ∨ c = '"' then
      let inside := rest.takeWhile (· != c)
      if inside.length < rest.length then inside.length + 2 else text.length
    else 1

theorem tokenLength_pos {c : Char} {rest : List Char} : 0 < tokenLength (c :: rest) := by
  unfold tokenLength
  simp only
  split
  · rename_i h
    simp [h]
  · split
    · split <;> simp
    · simp

def tokensFrom (offset : Nat) (text : List Char) : List Token :=
  match text with
  | [] => []
  | c :: rest =>
    if isSqlBlank c then tokensFrom (offset + 1) rest
    else
      let n := tokenLength (c :: rest)
      ⟨String.ofList ((c :: rest).take n), offset⟩ ::
        tokensFrom (offset + byteLength ((c :: rest).take n)) ((c :: rest).drop n)
  termination_by text.length
  decreasing_by
    · simp
    · have := @tokenLength_pos c rest
      simp only [List.length_drop, List.length_cons] at *; omega

def Token.isWord (t : Token) (word : String) : Bool :=
  t.text.toList.map Char.toUpper == word.toList

def statementWords : List String :=
  ["SELECT", "INSERT", "UPDATE", "DELETE", "CREATE", "DROP", "ALTER", "WITH", "VALUES", "PRAGMA",
    "BEGIN", "COMMIT", "END", "ROLLBACK", "REPLACE", "EXPLAIN", "ATTACH", "DETACH", "VACUUM",
    "ANALYZE", "REINDEX", "SAVEPOINT", "RELEASE"]

def Token.isName (t : Token) : Bool :=
  (t.text.toList.head?.any (fun c => isNameChar c && !Number.isDecimalDigit c)) &&
    !(["NULL", "AS", "DISTINCT", "ALL", "NOT", "AND", "OR", "TRUE", "FALSE", "FROM", "WHERE",
      "CURRENT_TIME", "CURRENT_DATE", "CURRENT_TIMESTAMP"].any t.isWord)

/-- The first name in a select list without a table; names behind `AS` and names of functions
are none. -/
def firstColumn? (before : Option Token) : List Token → Option Token
  | [] => none
  | t :: rest =>
    let named := before.any (fun b => b.isWord "AS" || b.text == ")" ||
      (b.isName || (b.text.toList.head?.any (fun c => Number.isDecimalDigit c || c == '\''))))
    let called := rest.head?.any (fun next => next.text == "(")
    if t.isName && !named && !called then some t else firstColumn? (some t) rest

def Token.isOpenText (t : Token) : Bool :=
  match t.text.toList with
  | [] => false
  | c :: rest => (c == '\'' || c == '"') && rest.getLast? != some c

def selectFault? (tables : List String) (sql : String) (tokens : List Token) :
    Option DatabaseFault :=
  match tokens.dropWhile (fun t => !t.isWord "FROM") with
  | [] =>
    match firstColumn? none tokens with
    | some t => some (.engine (.missingColumn t.text sql t.offset))
    | none =>
      let placeholders := tokens.countP (fun t => t.text == "?")
      if placeholders = 0 then none else some (.parameterCount placeholders)
  | _ :: [] => some (.engine .incompleteStatement)
  | source :: name :: _ =>
    if tokens.head?.any (fun t => t.isWord "FROM") then
      some (.engine (.badToken source.text sql source.offset))
    else if tables.contains name.text then none
    else some (.engine (.missingTable name.text))

def changedTable? : List Token → Option Token
  | [] => none
  | t :: rest =>
    if ["INTO", "FROM", "TABLE", "UPDATE"].any t.isWord then rest.head? else changedTable? rest

def statementFault? (tables : List String) (sql : String) : Option DatabaseFault :=
  let tokens := (tokensFrom 0 sql.toList).filter (fun t => t.text != ";")
  match tokens with
  | [] => some (.engine .nothingToRun)
  | first :: rest =>
    if !statementWords.any first.isWord then
      some (.engine (.badToken first.text sql first.offset))
    else
      match rest.find? Token.isOpenText with
      | some t => some (.engine (.unknownToken t.text sql t.offset))
      | none =>
        if rest.isEmpty then some (.engine .incompleteStatement)
        else if first.isWord "SELECT" then selectFault? tables sql rest
        else if ["INSERT", "REPLACE", "DELETE", "UPDATE", "DROP", "ALTER"].any first.isWord then
          match changedTable? tokens with
          | some t =>
            if tables.contains t.text then none else some (.engine (.missingTable t.text))
          | none => none
        else none

end BurstProfiler.Recording
