import BurstProfiler.Duration

/-! The short decimal form of a duration: one unit, chosen so that the whole part is not zero,
and the decimals that are needed, as in `1.5ms`. -/

set_option autoImplicit false

namespace BurstProfiler.Duration

/-- The decimals of `part` out of `10 ^ places`, trailing zeros dropped. -/
def decimals (part places : Nat) : List Char :=
  let digits := Nat.toDigits 10 part
  let padded := List.replicate (places - digits.length) '0' ++ digits
  (padded.reverse.dropWhile (· == '0')).reverse

def decimalText (whole part places : Nat) (unit : String) : String :=
  let point := if part = 0 then [] else '.' :: decimals part places
  String.ofList (Nat.toDigits 10 whole ++ point) ++ unit

def inspect (d : Duration) : String :=
  let n := d.nanos
  if 1_000_000_000 ≤ n then decimalText (n / 1_000_000_000) (n % 1_000_000_000) 9 "s"
  else if 1_000_000 ≤ n then decimalText (n / 1_000_000) (n % 1_000_000) 6 "ms"
  else if 1000 ≤ n then decimalText (n / 1000) (n % 1000) 3 "µs"
  else decimalText n 0 0 "ns"

end BurstProfiler.Duration
