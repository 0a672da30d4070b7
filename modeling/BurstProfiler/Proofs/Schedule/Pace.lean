import BurstProfiler.Proofs.Places
import BurstProfiler.Proofs.Schedule.Clocked
import BurstProfiler.Proofs.Schedule.NominalTime
import Mathlib.Algebra.BigOperators.Intervals
import Mathlib.Algebra.Order.Group.Finset
import Mathlib.Order.Lattice.Nat

/-! The pace of a run on a clock of its own. Slots hang on the start of their burst and bursts on
the start of the run, so lateness is made up for and never added up. Both levels obey one law:
pieces of work are due at the multiples of an interval, and each begins when it is due or when
the one before it is through, whichever is later. -/

set_option autoImplicit false

namespace BurstProfiler.Schedule

section Pieces

variable (interval : Nat) (takes : Nat → Nat)

/-- When piece `k` begins: for some piece `j` up to it, when `j` is due and all the work from `j`
on is done, and for none later. -/
def begins (k : Nat) : Nat :=
  (Finset.range (k + 1)).sup (fun j => j * interval + ∑ i ∈ Finset.Ico j k, takes i)

def through : Nat → Nat
  | 0 => 0
  | k + 1 => begins interval takes k + takes k

theorem begins_succ (k : Nat) : begins interval takes (k + 1) =
    max ((k + 1) * interval) (begins interval takes k + takes k) := by
  have itself : ∑ i ∈ Finset.Ico (k + 1) (k + 1), takes i = 0 := by
    rw [Finset.Ico_self, Finset.sum_empty]
  -- What decides when `k` begins decides when it is through.
  have earlier : (Finset.range (k + 1)).sup
      (fun j => j * interval + ∑ i ∈ Finset.Ico j (k + 1), takes i) =
        begins interval takes k + takes k := by
    rw [begins, Finset.sup_add Finset.nonempty_range_add_one]
    refine Finset.sup_congr rfl fun j member => ?_
    rw [Finset.sum_Ico_succ_top (Finset.mem_range_succ_iff.1 member), Nat.add_assoc]
  rw [begins, Finset.range_add_one, Finset.sup_insert, itself, Nat.add_zero, earlier]

theorem begins_zero : begins interval takes 0 = 0 := by
  simp [begins]

/-- A piece begins when it is due and those before it are through. -/
theorem begins_eq (k : Nat) :
    begins interval takes k = max (k * interval) (through interval takes k) := by
  cases k with
  | zero => rw [begins_zero, through, Nat.zero_mul, Nat.max_self]
  | succ k => rw [begins_succ, through]

theorem through_mono {j k : Nat} (le : j ≤ k) :
    through interval takes j ≤ through interval takes k := by
  induction le with
  | refl => exact Nat.le_refl _
  | step _ ih =>
    rw [through, begins_eq]
    omega

theorem begins_of_le {k : Nat} (short : ∀ i < k, takes i ≤ interval) :
    begins interval takes k = k * interval := by
  induction k with
  | zero => rw [begins_zero, Nat.zero_mul]
  | succ k ih =>
    have fits := short k (Nat.lt_succ_self k)
    rw [begins_succ, ih (fun i inside => short i (Nat.lt_succ_of_lt inside)), Nat.succ_mul]
    omega

end Pieces

theorem due?_eq_ofNanos? (p : Params) (r : Recording) : r.due? p =
    Instant.ofNanos? (r.started.nanos + r.slot * p.samplingInterval.nanos) := by
  apply Option.ext
  intro t
  rw [Instant.ofNanos?_eq_some_iff]
  constructor
  · exact fun due => (nanos_of_due? due).symm
  · intro sum
    have short : r.slot * p.samplingInterval.nanos < Duration.limit := by
      have small := t.nanos_lt
      unfold Instant.limit at small
      unfold Duration.limit
      omega
    exact Option.bind_eq_some_iff.2 ⟨⟨_, short⟩, Duration.scale?_eq_some_iff.2 rfl,
      Instant.add?_eq_some_iff.2 sum⟩

theorem of_awoke? {clock now : Instant} {event : Event} {n : Nat}
    (back : awoke? false clock (Instant.ofNanos? n) = some (event, now)) :
    event = .awoke false now ∧ now.nanos = max clock.nanos n := by
  obtain ⟨⟨stopped, later⟩, waited, same⟩ := Option.map_eq_some_iff.1 back
  obtain ⟨d, deadline, ended⟩ := Option.map_eq_some_iff.1 waited
  cases ended
  cases same
  rw [Instant.nanos_later, Instant.ofNanos?_eq_some_iff.1 deadline]
  exact ⟨rfl, rfl⟩

section Plan

variable (p : Params) (work : Nat → Nat → Work) (start : Nat)

def captureNanos (n k : Nat) : Nat := (work n k).takes.nanos

def slotBegins (n k : Nat) : Nat := begins p.samplingInterval.nanos (captureNanos work n) k

def slotsThrough (n k : Nat) : Nat := through p.samplingInterval.nanos (captureNanos work n) k

def burstTakes (n : Nat) : Nat := slotsThrough p work n p.samplesPerBurst.toNat

def burstDue (n : Nat) : Nat := start + p.initialDelay.nanos + n * p.burstInterval.nanos

def burstBegins (n : Nat) : Nat :=
  start + p.initialDelay.nanos + begins p.burstInterval.nanos (burstTakes p work) n

structure TimedBurst.OnPace (n : Nat) (b : TimedBurst) : Prop where
  started : b.started.nanos = burstBegins p work start n
  captures : ∀ k now, b.captures[k]? = some now →
    now.nanos = burstBegins p work start n + slotBegins p work n k
  closed : ∀ now, b.closed = some now → b.captures.length = p.samplesPerBurst.toNat ∧
    now.nanos = burstBegins p work start n + burstTakes p work n

structure Burst.OnPace (table : Timetable) (b : Burst) : Prop where
  target : b.target = Instant.ofNanos? (burstDue p start b.index)
  more : b.index < p.bursts.toNat
  index : table.past.length = b.index

/-- A recording of which some captures have begun. -/
structure Recording.OnPace (table : Timetable) (r : Recording) (begun : Nat) : Prop where
  burst : r.burst.OnPace p start table
  started : r.started.nanos = burstBegins p work start r.burst.index
  current : ∃ captures, table.current = some ⟨r.started, captures, none⟩ ∧ captures.length = begun

/-- What the clock shows and what the timetable holds in a phase. -/
def Phase.OnPace (table : Timetable) (clock : Nat) : Phase → Prop
  | .creating => clock = start ∧ table = .blank
  | .awaitingBurst b => b.OnPace p start table ∧ table.current = none ∧
    max clock (burstDue p start b.index) = burstBegins p work start b.index
  | .starting b => b.OnPace p start table ∧ table.current = none ∧
    clock = burstBegins p work start b.index
  | .awaitingSlot r => r.OnPace p work start table r.slot ∧ r.slot < p.samplesPerBurst.toNat ∧
    clock = r.started.nanos + slotsThrough p work r.burst.index r.slot
  | .capturing r => r.OnPace p work start table (r.slot + 1) ∧
    r.slot < p.samplesPerBurst.toNat ∧
    clock = r.started.nanos + slotBegins p work r.burst.index r.slot
  | .closing r interrupted => r.OnPace p work start table p.samplesPerBurst.toNat ∧
    interrupted = false ∧ clock = r.started.nanos + burstTakes p work r.burst.index
  | .publishing b _ interrupted => b.target = Instant.ofNanos? (burstDue p start b.index) ∧
    table.past.length = b.index + 1 ∧ table.current = none ∧ interrupted = false ∧
    b.index < p.bursts.toNat ∧
    clock = burstBegins p work start b.index + burstTakes p work b.index
  | .completing | .ended => table.past.length = p.bursts.toNat ∧ table.current = none
  | .broken _ => False

structure Run.OnPace (table : Timetable) (clock : Nat) (r : Run) : Prop where
  phase : r.phase.OnPace p work start table clock
  past : ∀ n (b : TimedBurst), table.past[n]? = some b →
    b.OnPace p work start n ∧ b.closed.isSome
  current : ∀ b : TimedBurst, table.current = some b → b.OnPace p work start table.past.length

end Plan

section Steps

variable {p : Params} {work : Nat → Nat → Work} {start : Nat} {table : Timetable} {clock : Nat}

theorem burstBegins_zero : burstBegins p work start 0 = burstDue p start 0 := by
  rw [burstBegins, begins_zero, burstDue, Nat.zero_mul]

theorem burstBegins_succ (n : Nat) : burstBegins p work start (n + 1) =
    max (burstDue p start (n + 1)) (burstBegins p work start n + burstTakes p work n) := by
  unfold burstBegins burstDue
  rw [begins_succ]
  omega

theorem slotBegins_eq (n k : Nat) : slotBegins p work n k =
    max (k * p.samplingInterval.nanos) (slotsThrough p work n k) :=
  begins_eq _ _ k

theorem onPace_enterBurst {r : Run} {b : Burst}
    (target : b.target = Instant.ofNanos? (burstDue p start b.index))
    (index : table.past.length = b.index) (within : b.index ≤ p.bursts.toNat)
    (idle : table.current = none)
    (free : max clock (burstDue p start b.index) = burstBegins p work start b.index) :
    (r.enterBurst p b).phase.OnPace p work start table clock := by
  unfold Run.enterBurst
  split
  · rename_i more
    exact ⟨⟨target, more, index⟩, idle, free⟩
  · rename_i through
    exact ⟨by omega, idle⟩

theorem onPace_slotPhase {r : Recording} (recording : r.OnPace p work start table r.slot)
    (within : r.slot ≤ p.samplesPerBurst.toNat)
    (free : clock = r.started.nanos + slotsThrough p work r.burst.index r.slot) :
    (Run.slotPhase p r).OnPace p work start table clock := by
  unfold Run.slotPhase
  split
  · rename_i more
    exact ⟨recording, more, free⟩
  · rename_i last
    obtain same : r.slot = p.samplesPerBurst.toNat := by omega
    rw [same] at recording free
    exact ⟨recording, rfl, free⟩

theorem Recording.OnPace.afterCapture {r : Recording} {begun : Nat}
    (h : r.OnPace p work start table begun) (met : List Module) (result : Except Error Sample) :
    (r.afterCapture met result).OnPace p work start table begun := by
  refine ⟨?_, ?_, ?_⟩
  · rw [afterCapture_burst]
    exact h.burst
  · rw [afterCapture_started, afterCapture_burst]
    exact h.started
  · rw [afterCapture_started]
    exact h.current

-- Nothing that comes next on the clock breaks a run off.
theorem Phase.upcoming?_ne_broke {phase : Phase} {stopRequested : Bool} {clock now : Instant}
    {message : String} (may_break : phase.MayBreak) :
    phase.upcoming? p work stopRequested clock ≠ some (.broke message, now) := by
  intro upcoming
  cases phase with
  | capturing recording =>
    obtain ⟨seen, -, same⟩ := Option.map_eq_some_iff.1 upcoming
    cases same
  | awaitingBurst b | awaitingSlot recording | publishing b profile interrupted | ended
  | broken message => cases may_break
  | creating | starting b | closing recording interrupted | completing => cases upcoming

namespace Run.OnPace

variable {clock now : Instant} {r r' : Run}

theorem available (h : r.OnPace p work start table clock.nanos) (at_phase : r.phase = .creating) :
    (r.enterBurst p (.first p clock)).OnPace p work start
      (table.note (.event (.created true clock))) clock.nanos := by
  have phase := h.phase
  rw [at_phase] at phase
  obtain ⟨at_start, rfl⟩ := phase
  refine ⟨onPace_enterBurst ?_ rfl (Nat.zero_le _) rfl ?_, h.past, h.current⟩
  · rw [Burst.first, burstDue, Nat.zero_mul, Nat.add_zero, ← at_start]
    rfl
  · rw [Burst.first, burstBegins_zero, burstDue, at_start]
    omega

theorem burstAwoke {b : Burst} {seen : Instant} (h : r.OnPace p work start table clock.nanos)
    (at_phase : r.phase = .awaitingBurst b)
    (upcoming : awoke? false clock b.target = some (.awoke false seen, now)) :
    Run.OnPace p work start (table.note (.event (.awoke false seen))) now.nanos
      { r with phase := .starting b, state := .inBurst } := by
  have phase := h.phase
  rw [at_phase] at phase
  obtain ⟨burst, idle, free⟩ := phase
  rw [burst.target] at upcoming
  obtain ⟨same, at_due⟩ := of_awoke? upcoming
  cases same
  rw [Timetable.note_awoke_of_none idle]
  exact ⟨⟨burst, idle, at_due.trans free⟩, h.past, h.current⟩

theorem started {b : Burst} (h : r.OnPace p work start table clock.nanos)
    (at_phase : r.phase = .starting b) :
    Run.OnPace p work start (table.note (.event (.started clock))) clock.nanos
      { r with phase := Run.slotPhase p (.begin p b clock) } := by
  have phase := h.phase
  rw [at_phase] at phase
  obtain ⟨burst, idle, at_start⟩ := phase
  refine ⟨onPace_slotPhase ⟨⟨burst.target, burst.more, burst.index⟩, at_start, [], rfl, rfl⟩
    (Nat.zero_le _) rfl, h.past, fun c begun => ?_⟩
  cases begun
  refine ⟨burst.index ▸ at_start, fun k seen place => ?_, fun seen closed => ?_⟩
  · cases place
  · cases closed

theorem slotAwoke {recording : Recording} {seen : Instant}
    (h : r.OnPace p work start table clock.nanos) (at_phase : r.phase = .awaitingSlot recording)
    (upcoming : awoke? false clock (recording.due? p) = some (.awoke false seen, now)) :
    Run.OnPace p work start (table.note (.event (.awoke false seen))) now.nanos
      { r with phase := .capturing recording } := by
  have phase := h.phase
  rw [at_phase] at phase
  obtain ⟨⟨burst, started, captures, current, length⟩, more, free⟩ := phase
  rw [due?_eq_ofNanos?] at upcoming
  obtain ⟨same, at_due⟩ := of_awoke? upcoming
  cases same
  have begins : now.nanos = recording.started.nanos +
      slotBegins p work recording.burst.index recording.slot := by
    rw [at_due, free, slotBegins_eq]
    omega
  have onPace := h.current _ current
  rw [Timetable.note_awoke current]
  refine ⟨⟨⟨⟨burst.target, burst.more, burst.index⟩, started, captures ++ [now], rfl, ?_⟩, more,
    begins⟩, h.past, fun c last => ?_⟩
  · rw [List.length_append, length]
    rfl
  · cases last
    refine ⟨onPace.started, fun k seen place => ?_, fun seen closed => ?_⟩
    · rcases getElem?_concat_eq_some place with earlier | ⟨rfl, rfl⟩
      · exact onPace.captures k seen earlier
      · rw [length, burst.index, begins, started]
    · cases closed

theorem captured {recording : Recording} {met : List Module} {result : Except Error Sample}
    (h : r.OnPace p work start table clock.nanos) (at_phase : r.phase = .capturing recording)
    (takes : clock.add? (work recording.burst.index recording.slot).takes = some now) :
    Run.OnPace p work start (table.note (.event (.captured met result))) now.nanos { r with
      phase := Run.slotPhase p (recording.afterCapture met result)
      summary := r.summary.afterCapture result } := by
  have phase := h.phase
  rw [at_phase] at phase
  obtain ⟨onPace, more, begun⟩ := phase
  rw [Instant.add?_eq_some_iff] at takes
  refine ⟨onPace_slotPhase ?_ ?_ ?_, h.past, h.current⟩
  · rw [afterCapture_slot]
    exact onPace.afterCapture _ _
  · rw [afterCapture_slot]
    exact more
  · rw [afterCapture_started, afterCapture_burst, afterCapture_slot, ← takes, begun,
      slotsThrough, through, Nat.add_assoc]
    rfl

theorem closed {recording : Recording} {interrupted : Bool}
    (h : r.OnPace p work start table clock.nanos)
    (at_phase : r.phase = .closing recording interrupted) :
    Run.OnPace p work start (table.note (.event (.closed clock))) clock.nanos { r with
      phase := .publishing recording.burst (recording.profile clock) interrupted } := by
  have phase := h.phase
  rw [at_phase] at phase
  obtain ⟨⟨burst, started, captures, current, length⟩, unstopped, free⟩ := phase
  have onPace := h.current _ current
  rw [Timetable.note_closed current]
  refine ⟨⟨burst.target, ?_, rfl, unstopped, burst.more, free.trans (by rw [started])⟩,
    fun n b place => ?_, fun b current => ?_⟩
  · rw [List.length_append, burst.index]
    rfl
  · rcases getElem?_concat_eq_some place with earlier | ⟨rfl, rfl⟩
    · exact h.past n b earlier
    · refine ⟨⟨onPace.started, onPace.captures, fun now closed => ?_⟩, rfl⟩
      cases closed
      exact ⟨length, by rw [free, started, burst.index]⟩
  · cases current

theorem published {b : Burst} {profile : Profile} (h : r.OnPace p work start table clock.nanos)
    (at_phase : r.phase = .publishing b profile false) :
    Run.OnPace p work start (table.note (.event .published)) clock.nanos (Run.enterBurst p { r with
      summary := { r.summary with
        profiles := r.summary.profiles + 1
        samples := r.summary.samples + profile.samples.length } } (b.next p)) := by
  have phase := h.phase
  rw [at_phase] at phase
  obtain ⟨target, past, idle, -, more, free⟩ := phase
  refine ⟨onPace_enterBurst ?_ past more idle ?_, h.past, h.current⟩
  · rw [Burst.next, target, Instant.ofNanos?_bind_add?, burstDue, burstDue, Nat.succ_mul,
      ← Nat.add_assoc]
  · rw [free, Nat.max_comm]
    exact (burstBegins_succ b.index).symm

theorem step {event : Event} (h : r.OnPace p work start table clock.nanos)
    (upcoming : r.phase.upcoming? p work false clock = some (event, now))
    (step : r.Step p event r') :
    r'.OnPace p work start (table.note (.event event)) now.nanos := by
  have phase := h.phase
  cases step with
  | available seen at_phase =>
    rw [at_phase] at upcoming
    cases upcoming
    exact h.available at_phase
  | unavailable seen at_phase =>
    rw [at_phase] at upcoming
    cases upcoming
  | burstStopped b seen at_phase =>
    rw [at_phase] at phase upcoming
    obtain ⟨burst, -⟩ := phase
    rw [Phase.upcoming?, burst.target] at upcoming
    cases (of_awoke? upcoming).1
  | burstDue b seen at_phase awake =>
    rw [at_phase] at upcoming
    exact h.burstAwoke at_phase upcoming
  | started b seen at_phase =>
    rw [at_phase] at upcoming
    cases upcoming
    exact h.started at_phase
  | slotStopped recording seen at_phase =>
    rw [at_phase] at upcoming
    rw [Phase.upcoming?, due?_eq_ofNanos?] at upcoming
    cases (of_awoke? upcoming).1
  | slotDue recording seen at_phase awake =>
    rw [at_phase] at upcoming
    exact h.slotAwoke at_phase upcoming
  | captured recording met result at_phase =>
    rw [at_phase] at upcoming
    obtain ⟨seen, sum, same⟩ := Option.map_eq_some_iff.1 upcoming
    cases same
    exact h.captured at_phase sum
  | closed recording interrupted seen at_phase =>
    rw [at_phase] at upcoming
    cases upcoming
    exact h.closed at_phase
  | publishedLast b profile at_phase =>
    rw [at_phase] at phase
    obtain ⟨-, -, -, contrary, -⟩ := phase
    cases contrary
  | published b profile at_phase =>
    rw [at_phase] at upcoming
    cases upcoming
    exact h.published at_phase
  | completed at_phase =>
    rw [at_phase] at phase upcoming
    cases upcoming
    exact ⟨phase, h.past, h.current⟩
  | broke message may_break => exact absurd upcoming (Phase.upcoming?_ne_broke may_break)

end Run.OnPace

end Steps

/-- The clock can show when each burst is over, and with that every deadline up to there. -/
def Representable (p : Params) (work : Nat → Nat → Work) (start : Nat) : Prop :=
  ∀ n < p.bursts.toNat, burstBegins p work start n + burstTakes p work n < Instant.limit

instance (p : Params) (work : Nat → Nat → Work) (start : Nat) :
    Decidable (Representable p work start) :=
  inferInstanceAs (Decidable (∀ n < p.bursts.toNat, _ < Instant.limit))

structure Clocked.OnPace (p : Params) (work : Nat → Nat → Work) (start : Nat) (c : Clocked) :
    Prop where
  params : c.session.params = p
  unstopped : c.session.stopRequested = false
  run : c.session.run.OnPace p work start c.table c.clock.nanos

section Runs

variable {p : Params} {work : Nat → Nat → Work} {start : Nat} {c d : Clocked}

theorem Clocked.onPace_start (p : Params) (work : Nat → Nat → Work) (sink : Sink)
    (store : PendingStore) (now : Instant) :
    (Clocked.start p sink store now).OnPace p work now.nanos :=
  ⟨rfl, rfl, ⟨rfl, rfl⟩, nofun, nofun⟩

theorem Clocked.OnPace.step (h : c.OnPace p work start) (stepped : c.step? work = some d) :
    d.OnPace p work start := by
  obtain ⟨event, upcoming, moved, moves⟩ := exists_of_step? stepped
  obtain ⟨-, run, step, same, -⟩ := Session.step_of_step? moved
  rw [h.params, h.unstopped] at upcoming
  rw [h.params] at step
  refine ⟨(Session.step?_params moved).trans h.params, ?_, ?_⟩
  · rw [same]
    exact (Session.deliver_stopRequested _ _ _).trans h.unstopped
  · rw [Clocked.table_of_moves moves, same]
    exact h.run.step upcoming step

theorem Clocked.OnPace.finish (h : c.OnPace p work start) : (c.finish work).OnPace p work start :=
  steps_induction (·.OnPace p work start) (fun before stepped => before.step stepped) _ h

theorem exists_awoke? (clock : Instant) {n : Nat} (small : n < Instant.limit) :
    ∃ now, awoke? false clock (Instant.ofNanos? n) = some (.awoke false now, now) ∧
      Run.mayAwake false now (Instant.ofNanos? n) = true := by
  obtain ⟨d, deadline, -⟩ := ofNanos?_of_lt small
  refine ⟨clock.later d, by rw [deadline]; rfl, ?_⟩
  have reached : d ≤ clock.later d := by
    have latest := Instant.nanos_later clock d
    show d.nanos ≤ (clock.later d).nanos
    omega
  rw [deadline]
  exact decide_eq_true reached

theorem slotsThrough_le (work : Nat → Nat → Work) (n : Nat) {k : Nat}
    (within : k ≤ p.samplesPerBurst.toNat) : slotsThrough p work n k ≤ burstTakes p work n :=
  through_mono _ _ within

theorem Run.OnPace.exists_upcoming {table : Timetable} {clock : Instant} {r : Run}
    (h : r.OnPace p work start table clock.nanos) (fits : Representable p work start)
    (more : r.result? = none) : ∃ event now,
      r.phase.upcoming? p work false clock = some (event, now) ∧ (r.step? p event).isSome ∧
      ∀ s : Session, s.stopRequested = false → s.agrees event = true := by
  obtain ⟨phase, state, summary⟩ := r
  have on_pace := h.phase
  have unstopped : ∀ now, ∀ s : Session, s.stopRequested = false →
      s.agrees (.awoke false now) = true := by
    intro now s flag
    rw [Session.agrees, flag]
    rfl
  cases phase with
  | creating | starting b | closing recording interrupted | completing =>
    exact ⟨_, _, rfl, rfl, fun _ _ => rfl⟩
  | awaitingBurst b =>
    obtain ⟨burst, -, free⟩ := on_pace
    have small := fits b.index burst.more
    obtain ⟨now, back, awake⟩ := exists_awoke? clock (n := burstDue p start b.index) (by omega)
    rw [← burst.target] at back awake
    refine ⟨_, now, back, ?_, unstopped now⟩
    simp only [Run.step?, awake]
    rfl
  | awaitingSlot recording =>
    obtain ⟨onPace, inside, -⟩ := on_pace
    have small := fits recording.burst.index onPace.burst.more
    have begun := onPace.started
    have slot : recording.slot * p.samplingInterval.nanos ≤
        slotsThrough p work recording.burst.index (recording.slot + 1) := by
      rw [slotsThrough, through, begins_eq]
      omega
    have last := slotsThrough_le work recording.burst.index (k := recording.slot + 1) inside
    obtain ⟨now, back, awake⟩ := exists_awoke? clock
      (n := recording.started.nanos + recording.slot * p.samplingInterval.nanos) (by omega)
    rw [← due?_eq_ofNanos?] at back awake
    refine ⟨_, now, back, ?_, unstopped now⟩
    simp only [Run.step?, awake]
    rfl
  | capturing recording =>
    obtain ⟨onPace, inside, began⟩ := on_pace
    have small := fits recording.burst.index onPace.burst.more
    have begun := onPace.started
    have last := slotsThrough_le work recording.burst.index (k := recording.slot + 1) inside
    have past : slotsThrough p work recording.burst.index (recording.slot + 1) =
        slotBegins p work recording.burst.index recording.slot +
          (work recording.burst.index recording.slot).takes.nanos := rfl
    obtain ⟨now, sum, -⟩ := add?_of_lt (t := clock)
      (d := (work recording.burst.index recording.slot).takes) (by omega)
    refine ⟨_, now, Option.map_eq_some_iff.2 ⟨now, sum, rfl⟩, rfl, fun _ _ => rfl⟩
  | publishing b profile interrupted =>
    obtain ⟨-, -, -, rfl, -⟩ := on_pace
    exact ⟨_, _, rfl, rfl, fun _ _ => rfl⟩
  | ended => cases more
  | broken message => cases on_pace

theorem Clocked.OnPace.result? (h : c.OnPace p work start) (fits : Representable p work start)
    (still : c.step? work = none) : c.session.run.result?.isSome := by
  cases more : c.session.run.result? with
  | some s => rfl
  | none =>
    obtain ⟨event, now, upcoming, stepped, agrees⟩ := h.run.exists_upcoming fits more
    obtain ⟨r, stepped⟩ := Option.isSome_iff_exists.1 stepped
    have moved : c.session.step? c.store event =
        some ({ (c.session.deliver c.store event).1 with run := r },
          (c.session.deliver c.store event).2) := by
      rw [Session.step?, if_pos (agrees _ h.unstopped), h.params, stepped]
      rfl
    rw [Clocked.step?, h.params, h.unstopped, upcoming] at still
    dsimp only at still
    rw [moved] at still
    cases still

end Runs

/-- How far behind its slot a capture begins. -/
def TimedBurst.lateness (p : Params) (b : TimedBurst) (slot : Nat) (now : Instant) : Int :=
  now.nanos - ((b.started.nanos + slot * p.samplingInterval.nanos : Nat) : Int)

/-- The captures of a burst by the time that each of them takes. -/
structure TimedBurst.KeepsPace (p : Params) (takes : Nat → Nat) (b : TimedBurst) : Prop where
  slots : ∀ k now, b.captures[k]? = some now →
    now.nanos = b.started.nanos + begins p.samplingInterval.nanos takes k
  punctual : ∀ k now, b.captures[k]? = some now → (∀ i < k, takes i ≤ p.samplingInterval.nanos) →
    now.nanos = b.started.nanos + k * p.samplingInterval.nanos
  lateness : ∀ k now next, b.captures[k]? = some now → b.captures[k + 1]? = some next →
    b.lateness p (k + 1) next = max 0 (b.lateness p k now + takes k - p.samplingInterval.nanos)
  /-- A burst is over when its last capture is through, and it has left out no slot. -/
  closed : ∀ now, b.closed = some now → b.captures.length = p.samplesPerBurst.toNat ∧
    now.nanos = b.started.nanos + through p.samplingInterval.nanos takes b.captures.length

structure Timetable.KeepsPace (p : Params) (work : Nat → Nat → Work) (start : Instant)
    (t : Timetable) : Prop where
  first : ∀ b, t.begun[0]? = some b → b.started.nanos = start.nanos + p.initialDelay.nanos
  next : ∀ n b c, t.begun[n]? = some b → t.begun[n + 1]? = some c →
    ∃ past, b.closed = some past ∧ c.started.nanos = max
      (start.nanos + p.initialDelay.nanos + (n + 1) * p.burstInterval.nanos) past.nanos
  bursts : ∀ n (b : TimedBurst), t.begun[n]? = some b →
    b.KeepsPace p (fun k => (work n k).takes.nanos)

theorem TimedBurst.OnPace.keepsPace {p : Params} {work : Nat → Nat → Work} {start n : Nat}
    {b : TimedBurst} (h : b.OnPace p work start n) :
    b.KeepsPace p (fun k => (work n k).takes.nanos) := by
  have slots : ∀ k now, b.captures[k]? = some now → now.nanos = b.started.nanos +
      begins p.samplingInterval.nanos (fun k => (work n k).takes.nanos) k := by
    intro k now place
    rw [h.captures k now place, h.started]
    rfl
  refine ⟨slots, fun k now place short => ?_, fun k now next place after => ?_,
    fun now past => ?_⟩
  · rw [slots k now place, begins_of_le _ _ short]
  · have again := slots (k + 1) next after
    have here := slots k now place
    unfold TimedBurst.lateness
    rw [begins_succ, Nat.succ_mul] at again
    rw [Nat.succ_mul]
    omega
  · obtain ⟨full, nanos⟩ := h.closed now past
    rw [full, nanos, h.started]
    exact ⟨rfl, rfl⟩

namespace Run.OnPace

variable {p : Params} {work : Nat → Nat → Work} {start : Nat} {clock : Nat} {table : Timetable}
  {r : Run}

theorem begun (h : r.OnPace p work start table clock) {n : Nat} {b : TimedBurst}
    (place : table.begun[n]? = some b) : b.OnPace p work start n := by
  unfold Timetable.begun at place
  cases current : table.current with
  | none =>
    rw [current, Option.toList_none, List.append_nil] at place
    exact (h.past n b place).1
  | some last =>
    rw [current, Option.toList_some] at place
    rcases getElem?_concat_eq_some place with earlier | ⟨rfl, rfl⟩
    · exact (h.past n b earlier).1
    · exact h.current _ current

theorem closed_of_next (h : r.OnPace p work start table clock) {n : Nat} {b c : TimedBurst}
    (place : table.begun[n]? = some b) (next : table.begun[n + 1]? = some c) :
    ∃ past, b.closed = some past := by
  have inside : n < table.past.length := by
    have bound := (List.getElem?_eq_some_iff.1 next).1
    have few : table.current.toList.length ≤ 1 := Option.length_toList_le
    unfold Timetable.begun at bound
    rw [List.length_append] at bound
    omega
  rw [Timetable.begun, List.getElem?_append_left inside] at place
  exact Option.isSome_iff_exists.1 (h.past n b place).2

theorem keepsPace {start : Instant} (h : r.OnPace p work start.nanos table clock) :
    table.KeepsPace p work start := by
  refine ⟨fun b place => ?_, fun n b c place next => ?_, fun n b place => (h.begun place).keepsPace⟩
  · rw [(h.begun place).started, burstBegins_zero, burstDue, Nat.zero_mul, Nat.add_zero]
  · obtain ⟨past, closed⟩ := h.closed_of_next place next
    refine ⟨past, closed, ?_⟩
    rw [(h.begun next).started, burstBegins_succ, ((h.begun place).closed past closed).2]
    rfl

end Run.OnPace

/-- A run on a clock of its own, as it stands when nothing more can happen. -/
structure Clocked.RunsOnPace (p : Params) (work : Nat → Nat → Work) (sink : Sink)
    (store : PendingStore) (start : Instant) (c : Clocked) : Prop where
  history : (Session.fresh p sink).replay? store c.moves = some (c.session, c.store)
  pace : c.table.KeepsPace p work start
  /-- It is through with all of its bursts if the clock can show their times. -/
  through : Representable p work start.nanos → c.session.run.result?.isSome ∧
    c.table.begun.length = p.bursts.toNat ∧ ∀ b ∈ c.table.begun, b.closed.isSome

/-- **Lateness does not add up.** Whatever each capture takes, the captures of a burst begin where
their slots and the captures before them put them, counted from the burst's own start, and the
bursts begin where their due times and the bursts before them put them, counted from the start of
the run. No slot and no burst is left out. -/
theorem run_keeps_pace (p : Params) (work : Nat → Nat → Work) (sink : Sink) (store : PendingStore)
    (start : Instant) : Clocked.RunsOnPace p work sink store start
      ((Clocked.start p sink store start).finish work) := by
  have onPace := (Clocked.onPace_start p work sink store start).finish
  refine ⟨Clocked.replay?_finish p sink store start, onPace.run.keepsPace, fun fits => ?_⟩
  have returned := onPace.result? fits (Clocked.step?_finish _)
  obtain ⟨s, result⟩ := Option.isSome_iff_exists.1 returned
  have phase := onPace.run.phase
  rw [(phase_of_result? result).1] at phase
  have begun : ((Clocked.start p sink store start).finish work).table.begun =
      ((Clocked.start p sink store start).finish work).table.past := by
    rw [Timetable.begun, phase.2, Option.toList_none, List.append_nil]
  rw [begun]
  refine ⟨returned, phase.1, fun b member => ?_⟩
  obtain ⟨n, place⟩ := List.getElem?_of_mem member
  exact (onPace.run.past n b place).2

def overrunParams : Params :=
  ⟨.ofMicros 5, 2, .ofMicros 300, 4, .ofMicros 100, false⟩

def overrunWork (burst slot : Nat) : Work :=
  ⟨⟨[], .ok []⟩, if burst = 0 ∧ slot = 1 then .ofMicros 250 else .ofMicros 10⟩

theorem run_keeps_pace_overrun : ∃ c,
    Clocked.RunsOnPace overrunParams overrunWork .pending .empty .origin c ∧
      c.session.run.result?.isSome ∧
      c.table.begun.map (fun b => (b.started.nanos, b.captures.map Instant.nanos)) =
        [(5000, [5000, 105000, 355000, 365000]), (375000, [375000, 475000, 575000, 675000])] :=
  ⟨_, run_keeps_pace overrunParams overrunWork .pending .empty .origin,
    ((run_keeps_pace overrunParams overrunWork .pending .empty .origin).through
      (by decide +kernel)).1, by decide +kernel⟩

end BurstProfiler.Schedule
