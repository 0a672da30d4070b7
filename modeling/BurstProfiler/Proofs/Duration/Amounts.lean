import BurstProfiler.Duration.Reader

/-! A text as the amounts of time that it adds up. Each term gives the amount of its whole part
and that of its fraction, if it has one. The amounts are added from left to right, each of them
checked; reading comes to this sum, or to the fault of the first amount that cannot be added. -/

set_option autoImplicit false

namespace BurstProfiler.Duration

open BurstProfiler.Text BurstProfiler.Number

inductive Amount where
  | seconds (count : Nat)
  | nanoseconds (count : Nat)
  deriving DecidableEq, Repr

def Amount.nanos : Amount → Nat
  | .seconds count => count * 1_000_000_000
  | .nanoseconds count => count

def Amount.counted (inSeconds : Bool) (nanos : Nat) : Amount :=
  if inSeconds then .seconds (nanos / 1_000_000_000) else .nanoseconds nanos

/-- The amounts of a term. A fraction that does not come out exactly has none. -/
def Term.amounts (term : Term) : List (Option Amount) :=
  some (.counted term.unit.isCoarse (term.whole * term.unit.nanos)) ::
    (term.fraction.map (fun fraction => (fraction.nanosOf? term.unit).map
      (.counted (term.unit.grain? == some 1_000_000_000)))).toList

/-- The terms at the start of a text, and whether the text ends behind them. -/
def terms (text : List Char) : List Term × Bool :=
  match _read : term? (dropBlanks text) with
  | none => ([], false)
  | some (term, rest) =>
    match dropBlanks rest with
    | [] => ([term], true)
    | _ :: _ => (term :: (terms rest).1, (terms rest).2)
  termination_by text.length
  decreasing_by
    all_goals
      have := term?_length _read
      have := length_dropWhile_le isBlank text
      unfold dropBlanks at *
      omega

def amounts (text : List Char) : List (Option Amount) := (terms text).1.flatMap Term.amounts

def addAmount (total : Duration) : Option Amount → Except ReadError Duration
  | some (.seconds count) =>
    if count ≤ maxWord then addParts total count 0 else .error .malformed
  | some (.nanoseconds count) =>
    if count ≤ maxWord then addParts total 0 count else .error .malformed
  | none => .error .malformed

theorem addCounted_eq (total : Duration) (inSeconds : Bool) (nanos : Nat) :
    addCounted total inSeconds nanos = addAmount total (some (.counted inSeconds nanos)) := by
  cases inSeconds <;> rfl

theorem Term.addTo_eq (term : Term) (total : Duration) :
    term.addTo total = term.amounts.foldlM addAmount total := by
  unfold Term.addTo Term.amounts
  rw [List.foldlM_cons, ← addCounted_eq]
  refine bind_congr fun sum => ?_
  cases term.fraction with
  | none => rfl
  | some fraction =>
    have one : ∀ x, [x].foldlM addAmount sum = addAmount sum x := fun x => by
      rw [List.foldlM_cons]
      exact bind_pure _
    cases exact_ : fraction.nanosOf? term.unit with
    | none => simp only [Option.map_some, Option.toList_some, exact_, one, Option.map_none]; rfl
    | some nanos =>
      simp only [Option.map_some, Option.toList_some, exact_, one, addCounted_eq]

section Terms

variable {text rest : List Char} {term : Term} {total : Duration}

theorem terms_none (read : term? (dropBlanks text) = none) : terms text = ([], false) := by
  rw [terms]
  split
  · rfl
  · rename_i other
    rw [read] at other
    cases other

theorem terms_last (read : term? (dropBlanks text) = some (term, rest))
    (ended : dropBlanks rest = []) : terms text = ([term], true) := by
  rw [terms]
  split
  · rename_i other
    rw [read] at other
    cases other
  · rename_i other
    cases read.symm.trans other
    rw [ended]

theorem terms_cons (read : term? (dropBlanks text) = some (term, rest))
    (more : dropBlanks rest ≠ []) : terms text = (term :: (terms rest).1, (terms rest).2) := by
  rw [terms]
  split
  · rename_i other
    rw [read] at other
    cases other
  · rename_i other
    cases read.symm.trans other
    split
    · contradiction
    · rfl

theorem addTerms_none (read : term? (dropBlanks text) = none) :
    addTerms total text = .error .malformed := by
  rw [addTerms]
  split
  · rfl
  · rename_i other
    rw [read] at other
    cases other

theorem addTerms_some (read : term? (dropBlanks text) = some (term, rest)) :
    addTerms total text = (term.addTo total).bind (fun sum =>
      if dropBlanks rest = [] then .ok sum else addTerms sum rest) := by
  rw [addTerms]
  split
  · rename_i other
    rw [read] at other
    cases other
  · rename_i other
    cases read.symm.trans other
    cases term.addTo total with
    | error fault => rfl
    | ok sum =>
      change _ = if dropBlanks rest = [] then _ else _
      dsimp only
      split
      · rename_i ended
        rw [if_pos ended]
      · rename_i more
        rw [if_neg (by simp [more])]

end Terms

-- The fault of a term comes before whatever is wrong behind it.
theorem addTerms_eq (total : Duration) (text : List Char) :
    addTerms total text = (amounts text).foldlM addAmount total >>= fun sum =>
      if (terms text).2 then .ok sum else .error .malformed := by
  fun_induction terms text generalizing total with
  | case1 text read =>
    rw [addTerms_none read, amounts, terms_none read]
    rfl
  | case2 text term rest read ended =>
    rw [addTerms_some read, amounts, terms_last read ended, List.flatMap_singleton, ← term.addTo_eq]
    simp only [if_pos ended, if_true]
    rfl
  | case3 text term rest read c more open_ ih =>
    have open' : dropBlanks rest ≠ [] := by simp [open_]
    rw [addTerms_some read, amounts, terms_cons read open', List.flatMap_cons, List.foldlM_append,
      ← term.addTo_eq, bind_assoc]
    simp only [if_neg open', ih]
    rfl

/-- Whether an amount can be added to a sum: the new sum is a duration, and nanoseconds do not take
the part below one second out of a word. -/
def Amount.Fits (sum : Nat) (amount : Amount) : Prop :=
  sum + amount.nanos < limit ∧
    ∀ count, amount = .nanoseconds count → sum % 1_000_000_000 + count ≤ maxWord

/-- The amounts can be added one after another to a sum and come to the last one. -/
def Adds (sum : Nat) : List Amount → Nat → Prop
  | [], last => sum = last
  | amount :: rest, last => amount.Fits sum ∧ Adds (sum + amount.nanos) rest last

section Sums

variable {total sum : Duration}

theorem eq_of_nanos (same : total.nanos = sum.nanos) : total = sum := by
  cases total
  cases sum
  cases same
  rfl

theorem addParts_eq_ok_iff {seconds nanoseconds : Nat} :
    addParts total seconds nanoseconds = .ok sum ↔
      total.subsecond + nanoseconds ≤ maxWord ∧
        total.nanos + seconds * 1_000_000_000 + nanoseconds = sum.nanos := by
  rw [← ofNanos?_eq_some_iff]
  unfold addParts
  dsimp only
  split
  · rename_i small
    split
    · rename_i s some_
      simp [small, some_]
    · rename_i none_
      simp only [none_, reduceCtorEq, and_false, iff_false]
      split <;> nofun
  · rename_i large
    simp [large]

-- What comes to exactly one second is carried without a check.
theorem addParts_eq_carry_iff {seconds nanoseconds : Nat} :
    addParts total seconds nanoseconds = .error .fullSecondCarry ↔
      total.subsecond + nanoseconds = 1_000_000_000 ∧ total.seconds + seconds = maxWord := by
  have parts : total.seconds * 1_000_000_000 + total.subsecond = total.nanos :=
    Nat.div_add_mod' total.nanos 1_000_000_000
  unfold addParts
  dsimp only
  split
  · rename_i small
    split
    · rename_i s some_
      have fits := s.nanos_lt
      rw [← ofNanos?_eq_some_iff.1 some_] at fits
      refine iff_of_false nofun ?_
      unfold limit maxWord at *
      omega
    · rename_i none_
      have full : limit ≤ total.nanos + seconds * 1_000_000_000 + nanoseconds := by
        refine Nat.not_lt.1 fun fits => ?_
        rw [ofNanos?, dif_pos fits] at none_
        cases none_
      split
      · rename_i carried
        refine iff_of_true rfl ⟨carried.1, ?_⟩
        unfold limit maxWord at *
        omega
      · rename_i other
        refine iff_of_false nofun fun carried => other ⟨carried.1, Nat.le_of_eq carried.2⟩
  · rename_i large
    refine iff_of_false nofun ?_
    unfold maxWord at large
    omega

theorem addAmount_eq_ok_iff {x : Option Amount} : addAmount total x = .ok sum ↔
    ∃ amount, x = some amount ∧ amount.Fits total.nanos ∧
      total.nanos + amount.nanos = sum.nanos := by
  have below : total.subsecond < 1_000_000_000 := Nat.mod_lt _ (by decide)
  have small := sum.nanos_lt
  cases x with
  | none => exact iff_of_false nofun nofun
  | some amount =>
    simp only [Option.some.injEq, exists_eq_left', Amount.Fits]
    cases amount with
    | seconds count =>
      simp only [addAmount, Amount.nanos, reduceCtorEq, false_implies, implies_true, and_true]
      split
      · rw [addParts_eq_ok_iff]
        unfold maxWord at *
        omega
      · rename_i large
        refine iff_of_false nofun ?_
        unfold limit maxWord at *
        omega
    | nanoseconds count =>
      simp only [addAmount, Amount.nanos, Amount.nanoseconds.injEq, forall_eq']
      have part : total.subsecond = total.nanos % 1_000_000_000 := rfl
      split
      · rw [addParts_eq_ok_iff]
        omega
      · rename_i large
        refine iff_of_false nofun ?_
        omega

theorem addAmount_of_fits {amount : Amount} (fits : amount.Fits total.nanos) :
    addAmount total (some amount) = .ok ⟨total.nanos + amount.nanos, fits.1⟩ :=
  addAmount_eq_ok_iff.2 ⟨amount, rfl, fits, rfl⟩

theorem addAmount_eq_carry_iff {x : Option Amount} :
    addAmount total x = .error .fullSecondCarry ↔
      ∃ count, x = some (.nanoseconds count) ∧ total.nanos + count = limit ∧
        count ≤ 1_000_000_000 := by
  have parts : total.seconds * 1_000_000_000 + total.subsecond = total.nanos :=
    Nat.div_add_mod' total.nanos 1_000_000_000
  have below : total.subsecond < 1_000_000_000 := Nat.mod_lt _ (by decide)
  have small := total.nanos_lt
  match x with
  | none => exact iff_of_false nofun nofun
  | some (.seconds count) =>
    refine iff_of_false (fun carried => ?_) nofun
    rw [addAmount] at carried
    split at carried
    · have := (addParts_eq_carry_iff.1 carried).1
      omega
    · cases carried
  | some (.nanoseconds count) =>
    simp only [Option.some.injEq, Amount.nanoseconds.injEq, exists_eq_left', addAmount]
    split
    · rw [addParts_eq_carry_iff]
      unfold limit maxWord at *
      omega
    · rename_i large
      refine iff_of_false nofun ?_
      unfold maxWord at large
      omega

theorem foldlM_eq_ok_iff {xs : List (Option Amount)} : xs.foldlM addAmount total = .ok sum ↔
    ∃ added, xs = added.map some ∧ Adds total.nanos added sum.nanos := by
  induction xs generalizing total with
  | nil =>
    constructor
    · intro same
      cases same
      exact ⟨[], rfl, rfl⟩
    · rintro ⟨added, none_, adds⟩
      cases List.map_eq_nil_iff.1 none_.symm
      exact congrArg Except.ok (eq_of_nanos adds)
  | cons x xs ih =>
    rw [List.foldlM_cons]
    constructor
    · intro read
      cases next : addAmount total x with
      | error fault =>
        rw [next] at read
        cases read
      | ok middle =>
        rw [next] at read
        obtain ⟨amount, rfl, fits, same⟩ := addAmount_eq_ok_iff.1 next
        obtain ⟨added, rfl, adds⟩ := ih.1 read
        exact ⟨amount :: added, rfl, fits, same ▸ adds⟩
    · rintro ⟨added, split, adds⟩
      cases added with
      | nil => cases split
      | cons amount added =>
        obtain ⟨fits, adds⟩ := adds
        cases split
        rw [addAmount_of_fits fits]
        exact ih.2 ⟨added, rfl, adds⟩

-- The amount that is carried without a check is the last one that counts.
theorem foldlM_eq_carry_iff {xs : List (Option Amount)} :
    xs.foldlM addAmount total = .error .fullSecondCarry ↔
      ∃ added sum count rest, xs = added.map some ++ some (.nanoseconds count) :: rest ∧
        Adds total.nanos added sum ∧ sum + count = limit ∧ count ≤ 1_000_000_000 := by
  induction xs generalizing total with
  | nil =>
    refine iff_of_false nofun ?_
    rintro ⟨added, sum, count, rest, none_, -⟩
    simp at none_
  | cons x xs ih =>
    rw [List.foldlM_cons]
    constructor
    · intro carried
      cases next : addAmount total x with
      | error fault =>
        rw [next] at carried
        cases carried
        obtain ⟨count, rfl, full, most⟩ := addAmount_eq_carry_iff.1 next
        exact ⟨[], total.nanos, count, xs, rfl, rfl, full, most⟩
      | ok sum =>
        rw [next] at carried
        obtain ⟨amount, rfl, fits, same⟩ := addAmount_eq_ok_iff.1 next
        obtain ⟨added, last, count, rest, rfl, adds, full⟩ := ih.1 carried
        exact ⟨amount :: added, last, count, rest, rfl, ⟨fits, same ▸ adds⟩, full⟩
    · rintro ⟨added, last, count, rest, split, adds, full, most⟩
      cases added with
      | nil =>
        cases adds
        cases split
        have carried := addAmount_eq_carry_iff.2 ⟨count, rfl, full, most⟩
        rw [carried]
        rfl
      | cons amount added =>
        obtain ⟨fits, adds⟩ := adds
        cases split
        rw [addAmount_of_fits fits]
        exact ih.2 ⟨added, last, count, rest, rfl, adds, full, most⟩

end Sums

section Readers

variable {text : List Char}

/-- The amounts of a text come to exactly the first number of seconds that is no duration when one
of at most a second is added in nanoseconds, and all before it could be added. -/
def CarriesOut (text : List Char) : Prop :=
  ∃ added sum count rest, amounts text = added.map some ++ some (.nanoseconds count) :: rest ∧
    Adds 0 added sum ∧ sum + count = limit ∧ count ≤ 1_000_000_000

theorem addTerms_eq_carry_iff :
    addTerms zero text = .error .fullSecondCarry ↔ CarriesOut text := by
  have carried : (amounts text).foldlM addAmount zero = .error .fullSecondCarry ↔
      CarriesOut text := foldlM_eq_carry_iff
  rw [addTerms_eq, ← carried]
  cases (amounts text).foldlM addAmount zero with
  | error fault => exact Iff.rfl
  | ok sum =>
    refine iff_of_false (fun carried => ?_) nofun
    change (if (terms text).2 then Except.ok sum else Except.error ReadError.malformed) = _
      at carried
    split at carried <;> cases carried

theorem addTerms_eq_ok_iff {d : Duration} : addTerms zero text = .ok d ↔
    (terms text).2 = true ∧ ∃ added, amounts text = added.map some ∧ Adds 0 added d.nanos := by
  have added : (amounts text).foldlM addAmount zero = .ok d ↔
      ∃ added, amounts text = added.map some ∧ Adds 0 added d.nanos := foldlM_eq_ok_iff
  rw [addTerms_eq, ← added]
  cases (amounts text).foldlM addAmount zero with
  | error fault => exact iff_of_false nofun nofun
  | ok sum =>
    change (if (terms text).2 then Except.ok sum else Except.error ReadError.malformed) = _ ↔ _
    split
    · rename_i ended
      exact (and_iff_right ended).symm
    · rename_i open_
      exact iff_of_false nofun fun h => open_ h.1

theorem not_carriesOut_zero : ¬ CarriesOut ['0'] := by
  rintro ⟨added, sum, count, rest, split, -⟩
  have none_ : term? (dropBlanks ['0']) = none := by decide
  rw [amounts, terms_none none_] at split
  simp at split

theorem read_eq_carry_iff : read text = .error .fullSecondCarry ↔ CarriesOut text := by
  have spelled : readSpelled text = .error .fullSecondCarry ↔ CarriesOut text := by
    unfold readSpelled
    split
    · rename_i single
      rw [single]
      exact iff_of_false nofun not_carriesOut_zero
    · exact addTerms_eq_carry_iff
  rw [← spelled, read]
  cases readSpelled text with
  | ok d => exact Iff.rfl
  | error fault =>
    cases fault with
    | fullSecondCarry => exact Iff.rfl
    | malformed =>
      refine iff_of_false (fun carried => ?_) nofun
      dsimp only at carried
      split at carried <;> cases carried

end Readers

end BurstProfiler.Duration
