import BurstProfiler.Text.Ranges
import BurstProfiler.Text.GraphemeExtend
import BurstProfiler.Text.Unprintable
import BurstProfiler.Text.Utf8
import BurstProfiler.Number.Integer

/-! The inspection form of values: records with named fields, lists in brackets, optional values
and quoted text in which every character is visible. -/

set_option autoImplicit false

namespace BurstProfiler.Text

/-- Whether a character is shown by its number: marks that would attach to the quote or letter
before them, and characters without a glyph. -/
def isHidden (c : Char) : Bool :=
  inRanges graphemeExtendRanges c || inRanges unprintableRanges c

def escapeChar (c : Char) : List Char :=
  if c = '"' then ['\\', '"']
  else if c = '\\' then ['\\', '\\']
  else if c = '\n' then ['\\', 'n']
  else if c = '\r' then ['\\', 'r']
  else if c = '\t' then ['\\', 't']
  else if c = '\x00' then ['\\', '0']
  else if isHidden c then ['\\', 'u', '\x7b'] ++ Number.hex c.toNat ++ ['\x7d']
  else [c]

def escapeByte (b : UInt8) : List Char :=
  let digit := fun n => (Nat.digitChar n).toUpper
  ['\\', 'x', digit (b.toNat / 16), digit (b.toNat % 16)]

def Utf8Piece.escaped : Utf8Piece → List Char
  | .char c => escapeChar c
  | .broken bytes => bytes.flatMap escapeByte

def quote (text : String) : String :=
  String.ofList (['"'] ++ text.toList.flatMap escapeChar ++ ['"'])

def quoteBytes (bytes : List UInt8) : String :=
  String.ofList (['"'] ++ (decodeUtf8 bytes).flatMap Utf8Piece.escaped ++ ['"'])

def inspectList (items : List String) : String := "[" ++ ", ".intercalate items ++ "]"

def inspectRecord (name : String) (fields : List (String × String)) : String :=
  name ++ " \x7b " ++ ", ".intercalate (fields.map (fun f => f.1 ++ ": " ++ f.2)) ++ " \x7d"

def inspectTuple (name : String) (items : List String) : String :=
  name ++ "(" ++ ", ".intercalate items ++ ")"

def inspectOption (item : Option String) : String :=
  match item with
  | none => "None"
  | some text => inspectTuple "Some" [text]

def inspectBool (b : Bool) : String := if b then "true" else "false"

end BurstProfiler.Text
