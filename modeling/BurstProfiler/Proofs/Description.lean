import BurstProfiler.Params
import BurstProfiler.Proofs.Duration.Spelling

/-! The printed plan of a run read back. The words between its numbers and lengths of time hold
four characters that stand nowhere else in the text: at these it comes apart in one way only. -/

set_option autoImplicit false

namespace BurstProfiler.Params

open BurstProfiler.Number

structure Description where
  bursts : List Char
  samples : List Char
  interval : List Char
  burstInterval : List Char
  delay : List Char
  deriving DecidableEq, Repr

def Description.text (t : Description) : List Char :=
  t.bursts ++ " burst(s) x ".toList ++ t.samples ++ " sample(s) every ".toList ++ t.interval ++
    ", bursts every ".toList ++ t.burstInterval ++ ", initial delay ".toList ++ t.delay

def description (p : Params) : Description where
  bursts := Nat.toDigits 10 p.bursts.toNat
  samples := Nat.toDigits 10 p.samplesPerBurst.toNat
  interval := p.samplingInterval.spell
  burstInterval := p.burstInterval.spell
  delay := p.initialDelay.spell

theorem toList_describe (p : Params) : p.describe.toList = p.description.text := by
  have digits : ∀ n : Nat, (toString n).toList = Nat.toDigits 10 n := fun _ =>
    String.toList_ofList
  simp only [describe, Duration.text, String.toList_append, String.toList_ofList, digits]
  rfl

/-- Without the four characters at which a description comes apart. -/
def Unmarked (text : List Char) : Prop := ∀ mark ∈ ['x', 'b', ',', '('], mark ∉ text

instance (text : List Char) : Decidable (Unmarked text) :=
  List.decidableBAll (fun mark => mark ∉ text) ['x', 'b', ',', '(']

theorem unmarked_decimal : Unmarked "0123456789".toList := by decide

theorem unmarked_digits (n : Nat) : Unmarked (Nat.toDigits 10 n) :=
  fun mark member inside => unmarked_decimal mark member (mem_toDigits_ten inside)

theorem unmarked_spell (d : Duration) : Unmarked d.spell := by
  have names : ∀ unit : TimeUnit, ∀ name ∈ unit.spellings, Unmarked name.toList := by
    intro unit
    cases unit <;> decide
  intro mark member inside
  rcases Duration.mem_spell inside with rfl | digit | ⟨unit, name, own, letter⟩
  · revert member
    decide
  · exact unmarked_decimal mark member digit
  · exact names unit name own mark member letter

theorem cut_at {mark : Char} {front back front' back' : List Char}
    (same : front ++ mark :: back = front' ++ mark :: back') (before : mark ∉ front')
    (behind : mark ∉ back') : front = front' ∧ back = back' := by
  obtain ⟨fronts, -, backs⟩ := (List.append_cons_inj_of_notMem before behind).1 same.symm
  exact ⟨fronts.symm, backs.symm⟩

namespace Description

structure Unmarked (t : Description) : Prop where
  bursts : Params.Unmarked t.bursts
  samples : Params.Unmarked t.samples
  interval : Params.Unmarked t.interval
  burstInterval : Params.Unmarked t.burstInterval
  delay : Params.Unmarked t.delay

-- The text with its marks brought out, each in front of the one that the part behind it has.
theorem text_eq (t : Description) : t.text = (t.bursts ++ " burst(s) ".toList) ++ 'x' ::
    (((" ".toList ++ t.samples ++ " sample".toList) ++ '(' ::
        ("s) every ".toList ++ t.interval ++ ", ".toList)) ++ 'b' ::
      (("ursts every ".toList ++ t.burstInterval) ++ ',' ::
        (" initial delay ".toList ++ t.delay))) := by
  simp [text]

-- The other text may have marks in its parts, but then there would be more of them.
theorem eq_of_text {t u : Description} (plain : u.Unmarked) (same : t.text = u.text) : t = u := by
  have free : ∀ mark ∈ ['x', 'b', ',', '('], mark ∉ u.bursts ∧ mark ∉ u.samples ∧
      mark ∉ u.interval ∧ mark ∉ u.burstInterval ∧ mark ∉ u.delay := fun mark member =>
    ⟨plain.bursts mark member, plain.samples mark member, plain.interval mark member,
      plain.burstInterval mark member, plain.delay mark member⟩
  rw [text_eq, text_eq] at same
  obtain ⟨bursts, same⟩ := cut_at same (by simp [free 'x']) (by simp [free 'x'])
  obtain ⟨front, back⟩ := cut_at same (by simp [free 'b']) (by simp [free 'b'])
  obtain ⟨samples, interval⟩ := cut_at front (by simp [free '(']) (by simp [free '('])
  obtain ⟨burstInterval, delay⟩ := cut_at back (by simp [free ',']) (by simp [free ','])
  simp only [List.append_cancel_right_eq, List.append_cancel_left_eq, List.append_assoc]
    at bursts samples interval burstInterval delay
  cases t
  cases u
  simp only [mk.injEq]
  exact ⟨bursts, samples, interval, burstInterval, delay⟩

end Description

theorem unmarked_description (p : Params) : p.description.Unmarked where
  bursts := unmarked_digits _
  samples := unmarked_digits _
  interval := unmarked_spell _
  burstInterval := unmarked_spell _
  delay := unmarked_spell _

theorem eq_of_digits {m n : UInt32} (same : Nat.toDigits 10 m.toNat = Nat.toDigits 10 n.toNat) :
    m = n := by
  have values := congrArg Duration.digitsValue same
  rw [Duration.digitsValue_toDigits, Duration.digitsValue_toDigits] at values
  exact UInt32.toNat_inj.1 values

theorem eq_of_description {p q : Params} (same : q.description = p.description) :
    q = { p with preservesOrder := q.preservesOrder } := by
  obtain ⟨delay, bursts, between, samples, interval, ordered⟩ := p
  obtain ⟨delay', bursts', between', samples', interval', ordered'⟩ := q
  simp only [description, Description.mk.injEq] at same
  obtain ⟨b, s, i, between_, d⟩ := same
  cases eq_of_digits b
  cases eq_of_digits s
  cases Duration.spell_injective i
  cases Duration.spell_injective between_
  cases Duration.spell_injective d
  rfl

/-- **The printed plan of a run is read back.** It comes apart at the words between its parts in
just one way; the numbers are then read as the numbers of bursts and of samples, and the lengths of
time as the plan's own, whatever they are. So plans with one text have the same numbers and lengths
of time. -/
theorem describe_read_back (p : Params) :
    (∃ t : Description, (∀ u : Description, u.text = p.describe.toList ↔ u = t) ∧
      readUnsigned 10 4_294_967_295 t.bursts = .ok p.bursts.toNat ∧
      readUnsigned 10 4_294_967_295 t.samples = .ok p.samplesPerBurst.toNat ∧
      Duration.read t.interval = .ok p.samplingInterval ∧
      Duration.read t.burstInterval = .ok p.burstInterval ∧
      Duration.read t.delay = .ok p.initialDelay) ∧
    ∀ q : Params, q.describe = p.describe ↔ q = { p with preservesOrder := q.preservesOrder } := by
  have unique : ∀ u : Description, u.text = p.describe.toList ↔ u = p.description := by
    intro u
    rw [toList_describe]
    exact ⟨Description.eq_of_text (unmarked_description p), fun same => same ▸ rfl⟩
  have number : ∀ n : UInt32, readUnsigned 10 4_294_967_295 (Nat.toDigits 10 n.toNat) =
      .ok n.toNat := fun n =>
    readUnsigned_toDigits (by decide) (by decide) (Nat.le_of_lt_succ n.toNat_lt)
  refine ⟨⟨p.description, unique, number _, number _, Duration.read_spell _,
    Duration.read_spell _, Duration.read_spell _⟩, fun q => ⟨fun same => ?_, fun same => ?_⟩⟩
  · have text : q.description.text = p.describe.toList := by
      rw [← toList_describe, same]
    exact eq_of_description ((unique q.description).1 text)
  · rw [same]
    rfl

end BurstProfiler.Params
