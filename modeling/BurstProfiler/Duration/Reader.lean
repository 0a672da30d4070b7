import BurstProfiler.Duration
import BurstProfiler.Duration.TimeUnit
import BurstProfiler.Number.Integer
import BurstProfiler.Text.Blank

/-! Reading durations such as `100ms`, `1h 30m` or `1.5s`, and bare numbers of seconds.

A text is a sequence of spans, each a number with a unit. White space may stand around and
inside numbers. Spans add up from left to right; all arithmetic is on 64-bit words, and a fault
anywhere refuses the text. -/

set_option autoImplicit false

namespace BurstProfiler.Duration

open BurstProfiler.Text BurstProfiler.Number

inductive ReadError where
  | malformed
  /-- The sub-second parts came to exactly one second and the whole seconds were full. -/
  | fullSecondCarry
  deriving DecidableEq, Repr

/-- Decimals after the point: their value and ten to the power of their number. -/
structure Fraction where
  numerator : Nat
  denominator : Nat
  deriving DecidableEq, Repr

structure Term where
  whole : Nat
  fraction : Option Fraction
  unit : TimeUnit
  deriving DecidableEq, Repr

def isDigit (c : Char) : Bool := '0' ≤ c && c ≤ '9'

def isUnitLetter (c : Char) : Bool :=
  ('a' ≤ c && c ≤ 'z') || ('A' ≤ c && c ≤ 'Z') || c == 'µ'

/-- The digits of a number that white space may break up, and the text behind it. -/
def spacedDigits (text : List Char) : List Char × List Char :=
  let inside := fun c => isDigit c || isBlank c
  ((text.takeWhile inside).filter isDigit, text.dropWhile inside)

def digitsValue (digits : List Char) : Nat :=
  digits.foldl (fun value c => value * 10 + (c.toNat - '0'.toNat)) 0

/-- A fraction needs a digit, and its denominator has to be a word. -/
def fraction? (digits : List Char) : Option Fraction :=
  if digits ≠ [] ∧ Nat.pow 10 digits.length ≤ maxWord then
    some ⟨digitsValue digits, Nat.pow 10 digits.length⟩
  else none

/-- The unit at the start of the text. It ends before a digit, which begins the next term, or
behind one white-space character. -/
def unit? (text : List Char) : Option (TimeUnit × List Char) :=
  let name := text.takeWhile isUnitLetter
  let rest := text.dropWhile isUnitLetter
  match TimeUnit.ofSpelling? name with
  | none => none
  | some unit =>
    match rest with
    | [] => some (unit, [])
    | c :: behind =>
      if isDigit c then some (unit, c :: behind)
      else if isBlank c then some (unit, behind)
      else none

def pointed? (text : List Char) : Option (Option Fraction × List Char) :=
  match text with
  | '.' :: behind =>
    (fraction? (spacedDigits behind).1).map
      (fun fraction => (some fraction, (spacedDigits behind).2))
  | _ => some (none, text)

def term? (text : List Char) : Option (Term × List Char) :=
  if (text.head?.map isDigit).getD false then
    let whole := digitsValue (spacedDigits text).1
    if whole ≤ maxWord then
      (pointed? (spacedDigits text).2).bind (fun pointed =>
        (unit? pointed.2).map (fun unit => (⟨whole, pointed.1, unit.1⟩, unit.2)))
    else none
  else none

/-- Adds whole seconds and nanoseconds. The nanoseconds first go to the sub-second part, which
has to stay a word. -/
def addParts (total : Duration) (seconds nanoseconds : Nat) : Except ReadError Duration :=
  let below := total.subsecond + nanoseconds
  if below ≤ maxWord then
    match ofNanos? (total.nanos + seconds * 1_000_000_000 + nanoseconds) with
    | some sum => .ok sum
    | none =>
      if below = 1_000_000_000 ∧ total.seconds + seconds ≤ maxWord then .error .fullSecondCarry
      else .error .malformed
  else .error .malformed

/-- Adds an amount of nanoseconds that is counted in seconds when it comes from a unit of whole
seconds, and in nanoseconds otherwise. -/
def addCounted (total : Duration) (inSeconds : Bool) (nanos : Nat) : Except ReadError Duration :=
  if inSeconds then
    if nanos / 1_000_000_000 ≤ maxWord then addParts total (nanos / 1_000_000_000) 0
    else .error .malformed
  else if nanos ≤ maxWord then addParts total 0 nanos
  else .error .malformed

/-- A fraction of a unit as a multiple of the unit's grain, when it comes out exactly and the
product is a word. -/
def Fraction.nanosOf? (fraction : Fraction) (unit : TimeUnit) : Option Nat :=
  match unit.grain? with
  | none => none
  | some grain =>
    let product := fraction.numerator * (unit.nanos / grain)
    if product ≤ maxWord ∧ product % fraction.denominator = 0 then
      some (product / fraction.denominator * grain)
    else none

def Term.addTo (term : Term) (total : Duration) : Except ReadError Duration := do
  let total ← addCounted total term.unit.isCoarse (term.whole * term.unit.nanos)
  match term.fraction with
  | none => pure total
  | some fraction =>
    match fraction.nanosOf? term.unit with
    | none => .error .malformed
    | some nanos => addCounted total (term.unit.grain? == some 1_000_000_000) nanos

theorem length_dropWhile_le (p : Char → Bool) (text : List Char) :
    (text.dropWhile p).length ≤ text.length :=
  (List.dropWhile_suffix p).length_le

theorem pointed?_length {text rest : List Char} {fraction : Option Fraction}
    (h : pointed? text = some (fraction, rest)) : rest.length ≤ text.length := by
  unfold pointed? at h
  split at h
  · rename_i behind
    obtain ⟨f, -, same⟩ := Option.map_eq_some_iff.1 h
    simp only [Prod.mk.injEq] at same
    have := length_dropWhile_le (fun c => isDigit c || isBlank c) behind
    rw [← same.2, List.length_cons]; exact Nat.le_succ_of_le this
  · simp only [Option.some.injEq, Prod.mk.injEq] at h
    exact Nat.le_of_eq (congrArg List.length h.2.symm)

theorem unit?_length {text rest : List Char} {unit : TimeUnit}
    (h : unit? text = some (unit, rest)) : rest.length ≤ text.length := by
  have drop := length_dropWhile_le isUnitLetter text
  unfold unit? at h
  simp only at h
  split at h
  · simp at h
  · split at h
    · simp only [Option.some.injEq, Prod.mk.injEq] at h
      rw [← h.2]; simp
    · rename_i c behind eq
      rw [eq, List.length_cons] at drop
      split at h
      · simp only [Option.some.injEq, Prod.mk.injEq] at h
        rw [← h.2, List.length_cons]; omega
      · split at h
        · simp only [Option.some.injEq, Prod.mk.injEq] at h
          rw [← h.2]; omega
        · simp at h

theorem term?_length {text rest : List Char} {term : Term}
    (h : term? text = some (term, rest)) : rest.length < text.length := by
  unfold term? at h
  split at h
  · rename_i first
    cases text with
    | nil => simp at first
    | cons c text =>
      have digit : isDigit c = true := by simpa using first
      simp only at h
      split at h
      · obtain ⟨pointed, read, h⟩ := Option.bind_eq_some_iff.1 h
        obtain ⟨unit, readUnit, same⟩ := Option.map_eq_some_iff.1 h
        simp only [Prod.mk.injEq] at same
        have l1 := pointed?_length read
        have l2 := unit?_length readUnit
        have l3 := length_dropWhile_le (fun c => isDigit c || isBlank c) text
        simp only [spacedDigits, List.dropWhile_cons, digit, Bool.true_or, if_true] at l1
        rw [← same.2, List.length_cons]; omega
      · simp at h
  · simp at h

def addTerms (total : Duration) (text : List Char) : Except ReadError Duration :=
  match _read : term? (dropBlanks text) with
  | none => .error .malformed
  | some (term, rest) =>
    match term.addTo total with
    | .error fault => .error fault
    | .ok total =>
      match dropBlanks rest with
      | [] => .ok total
      | _ :: _ => addTerms total rest
  termination_by text.length
  decreasing_by
    have := term?_length _read
    have := length_dropWhile_le isBlank text
    unfold dropBlanks at *
    omega

/-- A duration written with units; the single character `0` needs none. -/
def readSpelled (text : List Char) : Except ReadError Duration :=
  if text = ['0'] then .ok zero else addTerms zero text

/-- A duration with units, or else a whole number of seconds. -/
def read (text : List Char) : Except ReadError Duration :=
  match readSpelled text with
  | .ok d => .ok d
  | .error .fullSecondCarry => .error .fullSecondCarry
  | .error .malformed =>
    match readWord 10 text with
    | .ok n => .ok (ofSeconds (UInt64.ofNat n))
    | .error _ => .error .malformed

end BurstProfiler.Duration
