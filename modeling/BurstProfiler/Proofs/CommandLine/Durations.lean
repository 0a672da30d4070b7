import BurstProfiler.CommandLine.Request
import BurstProfiler.Proofs.Duration.Spelling

/-! Durations as arguments. An argument is a duration with units, or else a number of seconds, or it
is refused with a message that names it. The one text that gets neither answer comes to exactly the
first second that no duration holds: there the program breaks off. -/

set_option autoImplicit false

namespace BurstProfiler

open BurstProfiler.Text BurstProfiler.Number

namespace Duration

/-- A number in decimal digits, with zeros in front. -/
def bareNumber (zeros n : Nat) : List Char := List.replicate zeros '0' ++ Nat.toDigits 10 n

section Numbers

variable {zeros n : Nat}

theorem isDigit_of_mem_bareNumber {c : Char} (member : c ∈ bareNumber zeros n) :
    isDigit c = true ∧ isBlank c = false := by
  rcases List.mem_append.1 member with zero | digit
  · rw [List.eq_of_mem_replicate zero]
    decide
  · exact isDigit_of_mem_toDigits digit

theorem term?_digits {digits : List Char} (all : ∀ c ∈ digits, isDigit c = true) :
    term? digits = none := by
  have whole : spacedDigits (digits ++ []) = (digits, []) := spacedDigits_append all nofun
  rw [List.append_nil] at whole
  rw [term?, whole]
  split
  · dsimp only
    split
    · rfl
    · rfl
  · rfl

theorem addTerms_bareNumber (total : Duration) :
    addTerms total (bareNumber zeros n) = .error .malformed := by
  have kept : dropBlanks (bareNumber zeros n) = bareNumber zeros n := by
    cases digits : bareNumber zeros n with
    | nil => rfl
    | cons c rest =>
      have solid := (isDigit_of_mem_bareNumber (digits ▸ List.mem_cons_self : c ∈ _)).2
      exact List.dropWhile_cons_of_neg (by simp [solid])
  refine addTerms_none ?_
  rw [kept]
  exact term?_digits fun c member => (isDigit_of_mem_bareNumber member).1

theorem readWord_bareNumber (zeros : Nat) (n : UInt64) :
    readWord 10 (bareNumber zeros n.toNat) = .ok n.toNat :=
  readUnsigned_zeros (by decide) (by decide) (Nat.le_of_lt_succ n.toNat_lt) zeros

-- Zero is the one number that needs no unit.
theorem readSpelled_bareNumber (zeros : Nat) (n : UInt64) :
    readSpelled (bareNumber zeros n.toNat) = .ok (ofSeconds n) ∨
      readSpelled (bareNumber zeros n.toNat) = .error .malformed := by
  rw [readSpelled]
  split
  · rename_i single
    have value := readWord_bareNumber zeros n
    rw [single] at value
    have none_ : n.toNat = 0 := Except.ok.inj (value.symm.trans rfl)
    refine .inl (congrArg Except.ok (eq_of_nanos ?_))
    change 0 = n.toNat * 1_000_000_000
    rw [none_, Nat.zero_mul]
  · exact .inr (addTerms_bareNumber zero)

theorem read_bareNumber (zeros : Nat) (n : UInt64) :
    read (bareNumber zeros n.toNat) = .ok (ofSeconds n) := by
  rw [read]
  rcases readSpelled_bareNumber zeros n with spelled | malformed
  · rw [spelled]
  · rw [malformed, readWord_bareNumber]
    dsimp only
    rw [UInt64.ofNat_toNat]

end Numbers

end Duration

namespace CommandLine

open Duration

section Arguments

variable {α : Type} (set : Duration → α → α) (level : Level α) (text : String)

theorem readDuration_eq_crash_iff :
    readDuration set text level = .error (.crash "overflow in Duration::new") ↔
      CarriesOut text.toList := by
  rw [← read_eq_carry_iff, readDuration]
  split
  · rename_i d read
    rw [read]
    exact iff_of_false nofun nofun
  · rename_i read
    rw [read]
    exact iff_of_false nofun nofun
  · rename_i read
    exact iff_of_true rfl read

/-- An argument is a duration or is refused, unless it comes to exactly the first second that no
duration holds. A number alone is that number of seconds, whatever zeros are in front, and gets no
other reading from the units. -/
theorem readDuration_answers_iff :
    (readDuration set text level = .error (.crash "overflow in Duration::new") ↔
      CarriesOut text.toList) ∧
    (¬ CarriesOut text.toList ↔
      (∃ d, read text.toList = .ok d ∧
        readDuration set text level = .ok { level with value := set d level.value }) ∨
      readDuration set text level = .error (.rejected (invalidDuration text))) ∧
    ∀ (zeros : Nat) (n : UInt64),
      (readSpelled (bareNumber zeros n.toNat) = .ok (ofSeconds n) ∨
        readSpelled (bareNumber zeros n.toNat) = .error .malformed) ∧
      readDuration set (String.ofList (bareNumber zeros n.toNat)) level =
        .ok { level with value := set (ofSeconds n) level.value } := by
  refine ⟨readDuration_eq_crash_iff set level text, ?_, fun zeros n => ⟨?_, ?_⟩⟩
  · rw [← readDuration_eq_crash_iff set level text, readDuration]
    split
    · rename_i d read
      exact iff_of_true nofun (.inl ⟨d, read, rfl⟩)
    · exact iff_of_true nofun (.inr rfl)
    · refine iff_of_false (fun other => other rfl) ?_
      rintro (⟨d, -, other⟩ | other)
      · cases other
      · cases other
  · exact readSpelled_bareNumber zeros n
  · rw [readDuration, String.toList_ofList, read_bareNumber]

end Arguments

-- One more millisecond takes the sum past that second, and is refused.
theorem interval_breaks_off :
    Request.read ["--interval", "18446744073709551615s 1000ms"] =
        .error (.crash "overflow in Duration::new") ∧
      Request.read ["--interval", "18446744073709551615s 1001ms"] =
        .error (.rejectedValue "--interval <INTERVAL>" "18446744073709551615s 1001ms"
          (invalidDuration "18446744073709551615s 1001ms")) := by
  decide +kernel

end CommandLine

end BurstProfiler
