import BurstProfiler.Duration.Spans
import BurstProfiler.Proofs.Duration.Amounts
import BurstProfiler.Proofs.Numerals
import BurstProfiler.Proofs.Words
import Mathlib.Data.Bool.AllAny

/-! The written form of a duration read back. A span is read as the term it was written for, and
what the spans come to never leaves the range of a duration: every partial sum is at most the
whole, and the parts below one second stay below it. -/

set_option autoImplicit false

namespace BurstProfiler.Duration

open BurstProfiler.Text BurstProfiler.Number

theorem isDigit_of_mem_toDigits {n : Nat} {c : Char} (member : c ∈ Nat.toDigits 10 n) :
    isDigit c = true ∧ isBlank c = false := by
  have digits : ∀ d < 10, isDigit d.digitChar = true ∧ isBlank d.digitChar = false := by decide
  obtain ⟨d, small, rfl⟩ := mem_toDigits (by decide) member
  exact digits d small

theorem digitsValue_toDigits (n : Nat) : digitsValue (Nat.toDigits 10 n) = n := by
  have value := Nat.ofDigitChars_ten_toDigits (n := n)
  rw [Nat.ofDigitChars_eq_foldl] at value
  simpa only [digitsValue, Nat.mul_comm] using value

-- Digits in front of something that neither is a digit nor can stand between digits.
theorem spacedDigits_append {digits rest : List Char} (all : ∀ c ∈ digits, isDigit c = true)
    (next : ∀ c ∈ rest.head?, isDigit c = false ∧ isBlank c = false) :
    spacedDigits (digits ++ rest) = (digits, rest) := by
  have inside : ∀ c ∈ digits, (isDigit c || isBlank c) = true := fun c member => by
    rw [all c member, Bool.true_or]
  have outside : ∀ c ∈ rest.head?, (isDigit c || isBlank c) = false := fun c head => by
    rw [(next c head).1, (next c head).2, Bool.false_or]
  unfold spacedDigits
  dsimp only
  rw [List.takeWhile_append_of_pos inside, List.dropWhile_append_of_pos inside]
  cases rest with
  | nil => simp [List.filter_eq_self.2 all]
  | cons c rest =>
    have stop := outside c rfl
    rw [List.takeWhile_cons_of_neg (by simp [stop]), List.dropWhile_cons_of_neg (by simp [stop]),
      List.append_nil, List.filter_eq_self.2 all]

theorem spellingFor_mem (unit : TimeUnit) (count : Nat) :
    unit.spellingFor count ∈ unit.spellings := by
  cases unit with
  | day | week | month | year =>
    dsimp only [TimeUnit.spellingFor]
    split
    · simp [TimeUnit.spellings]
    · simp [TimeUnit.spellings]
  | nanosecond | microsecond | millisecond | second | minute | hour => exact List.mem_cons_self

theorem ofSpelling?_of_mem {unit : TimeUnit} {name : String} (member : name ∈ unit.spellings) :
    TimeUnit.ofSpelling? name.toList = some unit := by
  revert name
  cases unit <;> decide

theorem isUnitLetter_of_mem {unit : TimeUnit} {name : String} (member : name ∈ unit.spellings) :
    name.toList ≠ [] ∧ ∀ c ∈ name.toList,
      isUnitLetter c = true ∧ isDigit c = false ∧ isBlank c = false ∧ c ≠ '.' := by
  have letters : ∀ name ∈ unit.spellings, name.toList ≠ [] ∧ name.toList.all (fun c =>
      isUnitLetter c = true ∧ isDigit c = false ∧ isBlank c = false ∧ c ≠ '.') = true := by
    cases unit <;> decide
  obtain ⟨ne, all⟩ := letters name member
  exact ⟨ne, List.all_iff_forall_prop.1 all⟩

section Spans

variable {s : Span} {rest : List Char}

def Span.term (s : Span) : Term := ⟨s.count, none, s.unit⟩

def Span.amount (s : Span) : Amount := .counted s.unit.isCoarse s.nanos

theorem unit?_append {unit : TimeUnit} {name : String} (member : name ∈ unit.spellings)
    (next : ∀ c ∈ rest.head?, c = ' ') : unit? (name.toList ++ rest) = some (unit, rest.tail) := by
  have letters : ∀ c ∈ name.toList, isUnitLetter c = true := fun c inside =>
    ((isUnitLetter_of_mem member).2 c inside).1
  unfold unit?
  dsimp only
  rw [List.takeWhile_append_of_pos letters, List.dropWhile_append_of_pos letters]
  cases rest with
  | nil =>
    rw [List.takeWhile_nil, List.append_nil, ofSpelling?_of_mem member]
    rfl
  | cons c rest =>
    cases next c rfl
    have stop : ¬ isUnitLetter ' ' = true := by decide
    rw [List.takeWhile_cons_of_neg stop, List.dropWhile_cons_of_neg stop, List.append_nil,
      ofSpelling?_of_mem member]
    rfl

theorem exists_digit_text (s : Span) : ∃ c more, s.text = c :: more ∧
    isDigit c = true ∧ isBlank c = false := by
  obtain ⟨c, digits, first⟩ :=
    List.exists_cons_of_ne_nil (Nat.toDigits_ne_nil : Nat.toDigits 10 s.count ≠ [])
  refine ⟨c, digits ++ (s.unit.spellingFor s.count).toList, ?_, ?_⟩
  · rw [Span.text, first, List.cons_append]
  · exact isDigit_of_mem_toDigits (first ▸ List.mem_cons_self)

theorem dropBlanks_text (s : Span) (rest : List Char) :
    dropBlanks (s.text ++ rest) = s.text ++ rest := by
  obtain ⟨c, more, first, -, solid⟩ := exists_digit_text s
  rw [first, List.cons_append, dropBlanks, List.dropWhile_cons_of_neg (by simp [solid])]

theorem term?_text (fits : s.count ≤ maxWord) (next : ∀ c ∈ rest.head?, c = ' ') :
    term? (s.text ++ rest) = some (s.term, rest.tail) := by
  have name := spellingFor_mem s.unit s.count
  obtain ⟨ne, letters⟩ := isUnitLetter_of_mem name
  obtain ⟨l, more, spelled⟩ := List.exists_cons_of_ne_nil ne
  obtain ⟨-, noDigit, solid, noPoint⟩ := letters l (spelled ▸ List.mem_cons_self)
  have digits : spacedDigits (s.text ++ rest) =
      (Nat.toDigits 10 s.count, (s.unit.spellingFor s.count).toList ++ rest) := by
    rw [Span.text, List.append_assoc]
    refine spacedDigits_append (fun c member => (isDigit_of_mem_toDigits member).1) ?_
    rw [spelled]
    rintro c ⟨⟩
    exact ⟨noDigit, solid⟩
  have unpointed : pointed? ((s.unit.spellingFor s.count).toList ++ rest) =
      some (none, (s.unit.spellingFor s.count).toList ++ rest) := by
    rw [spelled, List.cons_append]
    unfold pointed?
    split
    · rename_i same
      cases same
      exact absurd rfl noPoint
    · rfl
  obtain ⟨c, text, first, digit, -⟩ := exists_digit_text s
  have head : ((s.text ++ rest).head?.map isDigit).getD false = true := by
    rw [first]
    exact digit
  rw [term?, if_pos head, digits]
  dsimp only
  rw [digitsValue_toDigits, if_pos fits, unpointed, Option.bind_some, unit?_append name next]
  rfl

theorem nanos_amount (s : Span) : s.amount.nanos = s.nanos := by
  have whole : s.unit.isCoarse = true → 1_000_000_000 ∣ s.unit.nanos := by
    cases s.unit <;> decide
  unfold Span.amount Amount.counted
  split
  · rename_i coarse
    exact Nat.div_mul_cancel (Nat.dvd_mul_left_of_dvd (whole coarse) s.count)
  · rfl

end Spans

section Joined

variable {spans : List Span}

def joined (spans : List Span) : List Char := [' '].intercalate (spans.map Span.text)

theorem joined_cons_cons (s t : Span) (spans : List Span) :
    joined (s :: t :: spans) = s.text ++ ' ' :: joined (t :: spans) := by
  simp only [joined, List.map_cons, List.intercalate_cons_cons, List.append_assoc,
    List.singleton_append]

theorem dropBlanks_joined_ne_nil (s : Span) (spans : List Span) :
    dropBlanks (joined (s :: spans)) ≠ [] := by
  obtain ⟨c, more, first, -⟩ := exists_digit_text s
  cases spans with
  | nil =>
    have kept := dropBlanks_text s []
    rw [List.append_nil] at kept
    rw [joined, List.map_singleton, List.intercalate_singleton, kept, first]
    exact List.cons_ne_nil c more
  | cons t spans =>
    rw [joined_cons_cons, dropBlanks_text, first]
    exact List.cons_ne_nil c _

theorem terms_joined (ne : spans ≠ []) (fits : ∀ s ∈ spans, s.count ≤ maxWord) :
    terms (joined spans) = (spans.map Span.term, true) := by
  induction spans with
  | nil => exact absurd rfl ne
  | cons s spans ih =>
    obtain ⟨own, later⟩ := List.forall_mem_cons.1 fits
    cases spans with
    | nil =>
      have alone : term? (dropBlanks (s.text ++ [])) = some (s.term, []) := by
        rw [dropBlanks_text]
        exact term?_text own nofun
      rw [List.append_nil] at alone
      rw [joined, List.map_singleton, List.intercalate_singleton]
      exact terms_last alone rfl
    | cons t spans =>
      have read : term? (dropBlanks (joined (s :: t :: spans))) =
          some (s.term, joined (t :: spans)) := by
        rw [joined_cons_cons, dropBlanks_text]
        refine term?_text own ?_
        rintro c ⟨⟩
        rfl
      rw [terms_cons read (dropBlanks_joined_ne_nil t spans), ih (List.cons_ne_nil t spans) later]
      rfl

theorem terms_zero : terms ['0'] = ([], false) := by
  have none_ : term? (dropBlanks ['0']) = none := by decide
  exact terms_none none_

theorem amounts_joined (ne : spans ≠ []) (fits : ∀ s ∈ spans, s.count ≤ maxWord) :
    amounts (joined spans) = (spans.map Span.amount).map some := by
  rw [amounts, terms_joined ne fits, List.flatMap_map, List.map_map]
  exact List.map_eq_flatMap.symm

def totalNanos (spans : List Span) : Nat := (spans.map Span.nanos).foldr (· + ·) 0

theorem totalNanos_cons (s : Span) (spans : List Span) :
    totalNanos (s :: spans) = s.nanos + totalNanos spans := rfl

theorem le_totalNanos {s : Span} (member : s ∈ spans) : s.nanos ≤ totalNanos spans := by
  induction spans with
  | nil => cases member
  | cons t spans ih =>
    rw [totalNanos_cons]
    rcases List.mem_cons.1 member with rfl | later
    · omega
    · have := ih later
      omega

theorem Span.fits_amount {s : Span} {sum : Nat} (inside : sum + s.nanos < limit)
    (fine : s.unit.isCoarse = false → s.nanos < 1_000_000_000) : s.amount.Fits sum := by
  refine ⟨nanos_amount s ▸ inside, fun count same => ?_⟩
  unfold Span.amount Amount.counted at same
  split at same
  · cases same
  · rename_i coarse
    cases same
    have := fine (Bool.eq_false_iff.2 coarse)
    unfold maxWord
    omega

theorem Span.count_le {s : Span} (inside : s.nanos < limit)
    (fine : s.unit.isCoarse = false → s.nanos < 1_000_000_000) : s.count ≤ maxWord := by
  have positive : 1 ≤ s.unit.nanos := by
    cases s.unit <;> decide
  unfold limit Span.nanos maxWord at *
  cases coarse : s.unit.isCoarse with
  | true =>
    have large : 1_000_000_000 ≤ s.unit.nanos := of_decide_eq_true coarse
    have := Nat.mul_le_mul_left s.count large
    omega
  | false =>
    have := fine coarse
    have := Nat.mul_le_mul_left s.count positive
    omega

-- No partial sum is more than the whole.
theorem adds_amounts {sum : Nat} (inside : sum + totalNanos spans < limit)
    (fine : ∀ s ∈ spans, s.unit.isCoarse = false → s.nanos < 1_000_000_000) :
    Adds sum (spans.map Span.amount) (sum + totalNanos spans) := by
  induction spans generalizing sum with
  | nil => rfl
  | cons s spans ih =>
    obtain ⟨own, later⟩ := List.forall_mem_cons.1 fine
    rw [totalNanos_cons, ← Nat.add_assoc] at inside ⊢
    refine ⟨Span.fits_amount (by omega) own, ?_⟩
    rw [nanos_amount]
    exact ih inside later

theorem read_joined {d : Duration} (ne : spans ≠ []) (total : totalNanos spans = d.nanos)
    (fine : ∀ s ∈ spans, s.unit.isCoarse = false → s.nanos < 1_000_000_000) :
    read (joined spans) = .ok d := by
  have small := d.nanos_lt
  have fits : ∀ s ∈ spans, s.count ≤ maxWord := fun s member =>
    Span.count_le (by have := le_totalNanos member; omega) (fine s member)
  have inside : 0 + totalNanos spans < limit := by omega
  have adds := adds_amounts inside fine
  rw [Nat.zero_add, total] at adds
  have added : addTerms zero (joined spans) = .ok d := addTerms_eq_ok_iff.2
    ⟨by rw [terms_joined ne fits], spans.map Span.amount, amounts_joined ne fits, adds⟩
  have other : joined spans ≠ ['0'] := by
    intro same
    have ended := terms_joined ne fits
    rw [same, terms_zero] at ended
    cases congrArg Prod.snd ended
  rw [read, readSpelled, if_neg other, added]

end Joined

theorem nanos_le_of_mem_spansIn {s : Span} {n : Nat} {units : List TimeUnit}
    (member : s ∈ spansIn n units) : s.nanos ≤ n := by
  induction units generalizing n with
  | nil => cases member
  | cons unit units ih =>
    rcases List.mem_cons.1 member with rfl | later
    · exact Nat.div_mul_le_self n unit.nanos
    · exact Nat.le_trans (ih later) (Nat.mod_le n unit.nanos)

-- What is left for the finer units is less than one of the last coarse unit.
theorem lt_of_mem_spansIn {s : Span} {n : Nat} {front back : List TimeUnit} {last : TimeUnit}
    (coarse : ∀ unit ∈ last :: front, unit.isCoarse = true)
    (member : s ∈ spansIn n (front ++ last :: back)) (fine : s.unit.isCoarse = false) :
    s.nanos < last.nanos := by
  obtain ⟨own, others⟩ := List.forall_mem_cons.1 coarse
  induction front generalizing n with
  | nil =>
    rcases List.mem_cons.1 member with rfl | later
    · cases own.symm.trans fine
    · have positive : 0 < last.nanos := by
        cases last <;> decide
      exact Nat.lt_of_le_of_lt (nanos_le_of_mem_spansIn later) (Nat.mod_lt n positive)
  | cons unit front ih =>
    obtain ⟨first, others⟩ := List.forall_mem_cons.1 others
    rcases List.mem_cons.1 member with rfl | later
    · cases first.symm.trans fine
    · exact ih (List.forall_mem_cons.2 ⟨own, others⟩) later others

theorem fine_of_mem_spans {d : Duration} {s : Span} (member : s ∈ d.spans)
    (fine : s.unit.isCoarse = false) : s.nanos < 1_000_000_000 := by
  have coarse : ∀ unit ∈ TimeUnit.second :: [.year, .month, .day, .hour, .minute],
      unit.isCoarse = true := by decide
  exact lt_of_mem_spansIn coarse (List.mem_filter.1 member).1 fine

theorem totalNanos_filter (spans : List Span) :
    totalNanos (spans.filter (fun s => s.count != 0)) = totalNanos spans := by
  induction spans with
  | nil => rfl
  | cons s spans ih =>
    rw [List.filter_cons]
    split
    · rw [totalNanos_cons, totalNanos_cons, ih]
    · rename_i zero
      have none_ : s.count = 0 := by simpa using zero
      rw [totalNanos_cons, ih, Span.nanos, none_, Nat.zero_mul, Nat.zero_add]

theorem totalNanos_spans (d : Duration) : totalNanos d.spans = d.nanos := by
  rw [spans, totalNanos_filter]
  exact sum_spansIn d.nanos
    [.year, .month, .day, .hour, .minute, .second, .millisecond, .microsecond]

-- Zero is written as the span that no other duration has.
theorem exists_spell_eq_joined (d : Duration) : ∃ spans, d.spell = joined spans ∧ spans ≠ [] ∧
    totalNanos spans = d.nanos ∧
      ∀ s ∈ spans, s.unit.isCoarse = false → s.nanos < 1_000_000_000 := by
  unfold spell
  split
  · rename_i zero
    have none_ : d.nanos = 0 := by simpa [isZero] using zero
    refine ⟨[⟨0, .second⟩], rfl, List.cons_ne_nil _ _, none_.symm, ?_⟩
    intro s member
    rw [List.mem_singleton.1 member]
    nofun
  · rename_i positive
    refine ⟨d.spans, rfl, fun none_ => ?_, totalNanos_spans d, fun s => fine_of_mem_spans⟩
    have total := totalNanos_spans d
    rw [none_] at total
    exact positive (by simp [isZero, ← total, totalNanos])

theorem read_spell (d : Duration) : read d.spell = .ok d := by
  obtain ⟨spans, written, ne, total, fine⟩ := exists_spell_eq_joined d
  rw [written]
  exact read_joined ne total fine

theorem spell_injective {d e : Duration} (same : d.spell = e.spell) : d = e := by
  have back := read_spell d
  rw [same, read_spell e] at back
  cases back
  rfl

example : (⟨limit - 1, by decide⟩ : Duration).text =
    "584542046090years 7months 15days 17h 5m 3s 999ms 999us 999ns" := by
  decide +kernel

theorem mem_spell {d : Duration} {c : Char} (member : c ∈ d.spell) : c = ' ' ∨
    c ∈ "0123456789".toList ∨ ∃ unit : TimeUnit, ∃ name ∈ unit.spellings, c ∈ name.toList := by
  obtain ⟨spans, written, -⟩ := exists_spell_eq_joined d
  rw [written, joined] at member
  refine (em (c = ' ')).imp_right fun other => ?_
  obtain ⟨piece, inside, member⟩ := (mem_intercalate other).1 member
  obtain ⟨s, -, rfl⟩ := List.mem_map.1 inside
  rcases List.mem_append.1 member with digits | name
  · exact .inl (mem_toDigits_ten digits)
  · exact .inr ⟨s.unit, _, spellingFor_mem s.unit s.count, name⟩

end BurstProfiler.Duration
