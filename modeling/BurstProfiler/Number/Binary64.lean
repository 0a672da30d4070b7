import BurstProfiler.Number.Integer

/-! Floating-point numbers of 64 bits: their bits, their exact values and their texts with a fixed
number of decimals. -/

set_option autoImplicit false

namespace BurstProfiler.Number

/-- The bits of a floating-point number: sign, eleven of exponent, fifty-two of fraction. -/
structure Binary64 where
  bits : UInt64
  deriving DecidableEq, Repr

/-- What the bits stand for. A finite value is `mantissa * 2 ^ exponent`. -/
inductive Reading where
  | finite (negative : Bool) (mantissa : Nat) (exponent : Int)
  | infinite (negative : Bool)
  | notANumber
  deriving DecidableEq, Repr

namespace Binary64

def zero : Binary64 := ⟨0⟩

def infinity : Binary64 := ⟨0x7FF0000000000000⟩

def notANumber : Binary64 := ⟨0x7FF8000000000000⟩

def read (x : Binary64) : Reading :=
  let n := x.bits.toNat
  let negative := 9_223_372_036_854_775_808 ≤ n
  let field : Nat := n / 4_503_599_627_370_496 % 2048
  let fraction : Nat := n % 4_503_599_627_370_496
  if field = 2047 then
    if fraction = 0 then .infinite negative else .notANumber
  else if field = 0 then .finite negative fraction (-1074)
  else .finite negative (4_503_599_627_370_496 + fraction) ((field : Int) - 1075)

def isNumber (x : Binary64) : Bool := x.read ≠ .notANumber

/-- Where a number stands among the numbers; both zeros stand in one place. -/
def place (x : Binary64) : Int :=
  let n := x.bits.toNat
  if n < 9_223_372_036_854_775_808 then n else 9_223_372_036_854_775_808 - n

end Binary64

/-- A quotient rounded to the nearest whole number, halves going to the even one. -/
def roundHalfEven (numerator denominator : Nat) : Nat :=
  let q := numerator / denominator
  let r := numerator % denominator
  if 2 * r < denominator then q
  else if denominator < 2 * r then q + 1
  else if q % 2 = 0 then q else q + 1

/-- A whole number rounded to the nearest one with at most 53 binary digits. -/
def roundSignificant (n : Nat) : Nat :=
  let unit := Nat.pow 2 (Nat.log2 n - 52)
  roundHalfEven n unit * unit

def roundSigned (n : Int) : Int := n.sign * roundSignificant n.natAbs

/-- The nearest number to a quotient. A mantissa that is rounded up to its full width carries into
the exponent, and what is beyond the largest finite number is infinite. -/
def Binary64.ofQuotient (numerator denominator : Nat) : Binary64 :=
  if denominator = 0 then if numerator = 0 then notANumber else infinity
  else if numerator = 0 then zero
  else
    let shifted := fun (exponent : Int) =>
      (numerator * Nat.pow 2 (-exponent).toNat, denominator * Nat.pow 2 exponent.toNat)
    let guess : Int := (Nat.log2 numerator : Int) - Nat.log2 denominator
    let top := if (shifted guess).1 < (shifted guess).2 then guess - 1 else guess
    let exponent := max (top - 52) (-1074)
    let mantissa := roundHalfEven (shifted exponent).1 (shifted exponent).2
    ⟨UInt64.ofNat
      (min (mantissa + (exponent + 1074).toNat * 4_503_599_627_370_496) infinity.bits.toNat)⟩

def scaledRound (mantissa : Nat) (exponent : Int) (scale : Nat) : Nat :=
  match exponent with
  | .ofNat e => mantissa * Nat.pow 2 e * scale
  | .negSucc e => roundHalfEven (mantissa * scale) (Nat.pow 2 (e + 1))

def pointedText (places n : Nat) : List Char :=
  let digits := Nat.toDigits 10 n
  let padded := List.replicate (places + 1 - digits.length) '0' ++ digits
  let split := padded.length - places
  if places = 0 then padded else padded.take split ++ '.' :: padded.drop split

/-- The text with a fixed number of decimals, rounded from the exact value. -/
def Binary64.fixedText (places : Nat) (x : Binary64) : List Char :=
  let signed := fun negative text => if negative then '-' :: text else text
  match x.read with
  | .finite negative mantissa exponent =>
    signed negative (pointedText places (scaledRound mantissa exponent (Nat.pow 10 places)))
  | .infinite negative => signed negative ['i', 'n', 'f']
  | .notANumber => ['N', 'a', 'N']

theorem roundHalfEven_pos {numerator denominator : Nat} (positive : 0 < denominator)
    (le : denominator ≤ numerator) : 0 < roundHalfEven numerator denominator := by
  have quotient : 0 < numerator / denominator := Nat.div_pos le positive
  unfold roundHalfEven
  dsimp only
  split
  · exact quotient
  · split
    · omega
    · split <;> omega

theorem roundSignificant_pos {n : Nat} (positive : 0 < n) : 0 < roundSignificant n := by
  have unit : 0 < Nat.pow 2 (Nat.log2 n - 52) := Nat.two_pow_pos _
  have smaller : Nat.pow 2 (Nat.log2 n - 52) ≤ Nat.pow 2 (Nat.log2 n) :=
    Nat.pow_le_pow_right (by decide) (Nat.sub_le _ _)
  have le : Nat.pow 2 (Nat.log2 n) ≤ n := Nat.log2_self_le (Nat.ne_of_gt positive)
  unfold roundSignificant
  exact Nat.mul_pos (roundHalfEven_pos unit (Nat.le_trans smaller le)) unit

-- The bits up to those of infinity are the numbers from zero on.
theorem Binary64.isNumber_of_le {x : Binary64} (le : x.bits.toNat ≤ infinity.bits.toNat) :
    x.isNumber = true ∧ 0 ≤ x.place := by
  have top : infinity.bits.toNat = 9_218_868_437_227_405_312 := rfl
  rw [top] at le
  unfold isNumber place read
  refine ⟨decide_eq_true ?_, ?_⟩
  · dsimp only
    split
    · rw [if_pos (by omega)]
      nofun
    · split <;> nofun
  · dsimp only
    split <;> omega

theorem Binary64.ofQuotient_le (numerator : Nat) {denominator : Nat} (positive : 0 < denominator) :
    (ofQuotient numerator denominator).bits.toNat ≤ infinity.bits.toNat := by
  unfold ofQuotient
  rw [if_neg (Nat.ne_of_gt positive)]
  split
  · decide
  · have top := infinity.bits.toNat_lt
    rw [UInt64.toNat_ofNat', Nat.mod_eq_of_lt (by omega)]
    exact Nat.min_le_right _ _

end BurstProfiler.Number
