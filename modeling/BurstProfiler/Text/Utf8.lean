/-! Bytes read as UTF-8. Well-formed sequences become characters; a byte that starts none, and
the longest start of a sequence that breaks off, stay as they are. -/

set_option autoImplicit false

namespace BurstProfiler.Text

inductive Utf8Piece where
  | char (c : Char)
  | broken (bytes : List UInt8)
  deriving DecidableEq, Repr

def isContinuation (b : UInt8) : Bool := 0x80 ≤ b && b ≤ 0xBF

/-- Which second bytes may follow a leading byte: overlong forms, surrogates and numbers above
0x10FFFF are excluded here. -/
def secondByteFits (lead second : UInt8) : Bool :=
  if lead == 0xE0 then 0xA0 ≤ second && second ≤ 0xBF
  else if lead == 0xED then 0x80 ≤ second && second ≤ 0x9F
  else if lead == 0xF0 then 0x90 ≤ second && second ≤ 0xBF
  else if lead == 0xF4 then 0x80 ≤ second && second ≤ 0x8F
  else isContinuation second

/-- How many bytes a leading byte announces; zero if it leads nothing. -/
def sequenceLength (lead : UInt8) : Nat :=
  if lead < 0x80 then 1
  else if lead < 0xC2 then 0
  else if lead < 0xE0 then 2
  else if lead < 0xF0 then 3
  else if lead < 0xF5 then 4
  else 0

def low6 (b : UInt8) : Nat := b.toNat % 64

/-- The piece that begins with a byte, and how many of the bytes behind it belong to it. -/
def firstPiece (lead : UInt8) (rest : List UInt8) : Utf8Piece × Nat :=
  match sequenceLength lead, rest with
  | 1, _ => (.char (Char.ofNat lead.toNat), 0)
  | 2, b :: _ =>
    if isContinuation b then (.char (Char.ofNat (lead.toNat % 32 * 64 + low6 b)), 1)
    else (.broken [lead], 0)
  | 3, b :: rest =>
    if secondByteFits lead b then
      match rest with
      | [] => (.broken [lead, b], 1)
      | c :: _ =>
        if isContinuation c then
          (.char (Char.ofNat ((lead.toNat % 16 * 64 + low6 b) * 64 + low6 c)), 2)
        else (.broken [lead, b], 1)
    else (.broken [lead], 0)
  | 4, b :: rest =>
    if secondByteFits lead b then
      match rest with
      | [] => (.broken [lead, b], 1)
      | c :: rest =>
        if isContinuation c then
          match rest with
          | [] => (.broken [lead, b, c], 2)
          | d :: _ =>
            if isContinuation d then
              (.char (Char.ofNat
                (((lead.toNat % 8 * 64 + low6 b) * 64 + low6 c) * 64 + low6 d)), 3)
            else (.broken [lead, b, c], 2)
        else (.broken [lead, b], 1)
    else (.broken [lead], 0)
  | _, _ => (.broken [lead], 0)

def decodeUtf8 : List UInt8 → List Utf8Piece
  | [] => []
  | lead :: rest =>
    (firstPiece lead rest).1 :: decodeUtf8 (rest.drop (firstPiece lead rest).2)
  termination_by bytes => bytes.length
  decreasing_by
    simp only [List.length_drop, List.length_cons]; omega

def encodeUtf8 (text : List Char) : List UInt8 := text.flatMap String.utf8EncodeChar

def Utf8Piece.replaced : Utf8Piece → Char
  | .char c => c
  | .broken _ => '\uFFFD'

def lossyText (bytes : List UInt8) : List Char := (decodeUtf8 bytes).map Utf8Piece.replaced

def exactText? (bytes : List UInt8) : Option (List Char) :=
  (decodeUtf8 bytes).mapM (fun piece =>
    match piece with
    | .char c => some c
    | .broken _ => none)

end BurstProfiler.Text
