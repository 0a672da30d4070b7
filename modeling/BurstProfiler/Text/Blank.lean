/-! White space, and text cut at it: the words of a line and the lines of a text. -/

set_option autoImplicit false

namespace BurstProfiler.Text

/-- White space: the characters with the property `White_Space`. -/
def isBlank (c : Char) : Bool :=
  let n := c.toNat
  (0x9 ≤ n && n ≤ 0xD) || n == 0x20 || n == 0x85 || n == 0xA0 || n == 0x1680 ||
    (0x2000 ≤ n && n ≤ 0x200A) || n == 0x2028 || n == 0x2029 || n == 0x202F || n == 0x205F ||
    n == 0x3000

def dropBlanks (text : List Char) : List Char := text.dropWhile isBlank

/-- The maximal runs of characters that are no white space, `word` being the start of the first
one in reverse. -/
def wordsFrom (word : List Char) : List Char → List (List Char)
  | [] => if word.isEmpty then [] else [word.reverse]
  | c :: rest =>
    if isBlank c then
      if word.isEmpty then wordsFrom [] rest else word.reverse :: wordsFrom [] rest
    else wordsFrom (c :: word) rest

def words (text : List Char) : List (List Char) := wordsFrom [] text

/-- Text cut at every occurrence of a separator; `piece` is the start of the first one in
reverse. -/
def splitFrom (separator : Char) (piece : List Char) : List Char → List (List Char)
  | [] => [piece.reverse]
  | c :: rest =>
    if c = separator then piece.reverse :: splitFrom separator [] rest
    else splitFrom separator (c :: piece) rest

/-- The pieces between the separators: one more than there are separators. -/
def splitAt (separator : Char) (text : List Char) : List (List Char) :=
  splitFrom separator [] text

def dropReturn (line : List Char) : List Char :=
  if line.getLast? = some '\r' then line.dropLast else line

/-- The lines of a text. A final line feed ends the last line and begins none; a carriage
return before a line feed belongs to the line's end. -/
def lines (text : List Char) : List (List Char) :=
  match (splitAt '\n' text).reverse with
  | [] => []
  | last :: earlier =>
    (earlier.reverse.map dropReturn) ++ (if last.isEmpty then [] else [last])

end BurstProfiler.Text
