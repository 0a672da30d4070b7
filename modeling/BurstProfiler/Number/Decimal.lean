import BurstProfiler.Number.Binary64

/-! Decimal numbers in text, read into floating-point numbers: digits with an optional point and
exponent, or the words `inf`, `infinity` and `nan` in any case. -/

set_option autoImplicit false

namespace BurstProfiler.Number

inductive DecimalError where
  | empty
  | invalid
  deriving DecidableEq, Repr

def DecimalError.message : DecimalError → String
  | .empty => "cannot parse float from empty string"
  | .invalid => "invalid float literal"

def isDecimalDigit (c : Char) : Bool := '0' ≤ c && c ≤ '9'

def decimalValue (digits : List Char) : Nat :=
  digits.foldl (fun value c => value * 10 + (c.toNat - '0'.toNat)) 0

def exponent? (text : List Char) : Option Int :=
  match text with
  | [] => some 0
  | e :: rest =>
    if e = 'e' ∨ e = 'E' then
      let negative := rest.head? == some '-'
      let digits := if negative || rest.head? == some '+' then rest.tail else rest
      if digits ≠ [] ∧ digits.all isDecimalDigit then
        some (if negative then -(decimalValue digits : Int) else decimalValue digits)
      else none
    else none

/-- The nearest number to `digits * 10 ^ exponent`. Exponents far outside the range of the format
are settled by the number of digits. -/
def nearest (digits : Nat) (exponent : Int) : Binary64 :=
  let length := (Nat.toDigits 10 digits).length
  if digits = 0 then .zero
  else if 400 < length + exponent then ⟨0x7FF0000000000000⟩
  else if length + exponent < -400 then .zero
  else if exponent < 0 then .ofQuotient digits (Nat.pow 10 exponent.natAbs)
  else .ofQuotient (digits * Nat.pow 10 exponent.natAbs) 1

def unsigned? (text : List Char) : Option Binary64 :=
  let lower := text.map Char.toLower
  if lower = "inf".toList ∨ lower = "infinity".toList then some ⟨0x7FF0000000000000⟩
  else if lower = "nan".toList then some ⟨0x7FF8000000000000⟩
  else
    let whole := text.takeWhile isDecimalDigit
    let rest := text.dropWhile isDecimalDigit
    let pointed := rest.head? == some '.'
    let behind := if pointed then rest.tail else rest
    let decimals := if pointed then behind.takeWhile isDecimalDigit else []
    let rest := if pointed then behind.dropWhile isDecimalDigit else behind
    if whole = [] ∧ decimals = [] then none
    else
      (exponent? rest).map (fun e =>
        nearest (decimalValue (whole ++ decimals)) (e - decimals.length))

def negate (x : Binary64) : Binary64 := ⟨x.bits ||| 0x8000000000000000⟩

def readDecimal (text : List Char) : Except DecimalError Binary64 :=
  let read := fun (text : List Char) =>
    match unsigned? text with
    | some x => Except.ok x
    | none => .error .invalid
  match text with
  | [] => .error .empty
  | '-' :: rest => (read rest).map negate
  | '+' :: rest => read rest
  | _ => read text

end BurstProfiler.Number
