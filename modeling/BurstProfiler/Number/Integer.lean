/-! Whole numbers in text, read into a bounded range. A reader names the first fault it meets,
from left to right: a character that is no digit, or a digit that takes the value out of the
range. -/

set_option autoImplicit false

namespace BurstProfiler.Number

inductive IntegerError where
  | empty
  | invalidDigit
  | tooLarge
  | tooSmall
  deriving DecidableEq, Repr

def IntegerError.message : IntegerError → String
  | .empty => "cannot parse integer from empty string"
  | .invalidDigit => "invalid digit found in string"
  | .tooLarge => "number too large to fit in target type"
  | .tooSmall => "number too small to fit in target type"

def digit? (radix : Nat) (c : Char) : Option Nat :=
  let value? :=
    if '0' ≤ c ∧ c ≤ '9' then some (c.toNat - '0'.toNat)
    else if 'a' ≤ c ∧ c ≤ 'f' then some (c.toNat - 'a'.toNat + 10)
    else if 'A' ≤ c ∧ c ≤ 'F' then some (c.toNat - 'A'.toNat + 10)
    else none
  value?.filter (· < radix)

def readDigits (radix limit : Nat) (outside : IntegerError) (value : Nat) :
    List Char → Except IntegerError Nat
  | [] => .ok value
  | c :: rest =>
    match digit? radix c with
    | none => .error .invalidDigit
    | some d =>
      if value * radix + d ≤ limit then readDigits radix limit outside (value * radix + d) rest
      else .error outside

def readUnsigned (radix limit : Nat) (text : List Char) : Except IntegerError Nat :=
  match text with
  | [] => .error .empty
  | ['+'] => .error .invalidDigit
  | '+' :: digits => readDigits radix limit .tooLarge 0 digits
  | digits => readDigits radix limit .tooLarge 0 digits

def readSigned (radix limit : Nat) (text : List Char) : Except IntegerError Int :=
  match text with
  | [] => .error .empty
  | ['+'] | ['-'] => .error .invalidDigit
  | '-' :: digits =>
    (readDigits radix (limit + 1) .tooSmall 0 digits).map (fun n => -(n : Int))
  | '+' :: digits => (readDigits radix limit .tooLarge 0 digits).map Int.ofNat
  | digits => (readDigits radix limit .tooLarge 0 digits).map Int.ofNat

def maxWord : Nat := 18_446_744_073_709_551_615

def readWord (radix : Nat) (text : List Char) : Except IntegerError Nat :=
  readUnsigned radix maxWord text

def hex (n : Nat) : List Char := Nat.toDigits 16 n

end BurstProfiler.Number
