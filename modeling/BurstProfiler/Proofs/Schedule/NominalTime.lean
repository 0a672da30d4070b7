import BurstProfiler.Proofs.Schedule.Actions
import BurstProfiler.Proofs.Schedule.Completion

/-! How long a run takes. Every wait that is not stopped ends at its deadline or later, so each
burst begins when it is due or later and takes at least the intervals between its captures. The
nominal duration of a run is the least that all of its bursts can take. The scheduler counts in
instants, step by step, and the nominal duration in durations; as a clock is shorter than the
longest duration, a plan whose nominal duration is none has a deadline that no clock can show. -/

set_option autoImplicit false

namespace BurstProfiler.Schedule

/-- The nominal duration of a plan in nanoseconds, whether or not it is a duration. -/
def nominalNanos (p : Params) : Nat :=
  p.initialDelay.nanos + (p.bursts.toNat - 1) * p.burstInterval.nanos + burstNanos p

-- No partial sum leaves the durations unless the whole sum does.
theorem nominal?_eq_ofNanos? {p : Params} (positive : p.bursts ≠ 0) :
    p.nominal? = Duration.ofNanos? (nominalNanos p) := by
  apply Option.ext
  intro d
  rw [Duration.ofNanos?_eq_some_iff]
  unfold Params.nominal? Params.burstSpan?
  rw [if_neg positive]
  simp only [Option.bind_eq_bind, Option.bind_eq_some_iff, Duration.scale?_eq_some_iff,
    Duration.add?_eq_some_iff]
  constructor
  · rintro ⟨between, gaps, span, last, delayed, started, whole⟩
    unfold nominalNanos burstNanos
    omega
  · intro whole
    have small := d.nanos_lt
    unfold nominalNanos at whole
    have part : ∀ n, n ≤ d.nanos → n < Duration.limit := fun n le => Nat.lt_of_le_of_lt le small
    refine ⟨⟨_, part ((p.bursts.toNat - 1) * p.burstInterval.nanos) (by omega)⟩, rfl,
      ⟨_, part (burstNanos p) (by omega)⟩, rfl,
      ⟨_, part (p.initialDelay.nanos + (p.bursts.toNat - 1) * p.burstInterval.nanos) (by omega)⟩,
      rfl, whole⟩

/-- The instant that an event has read from the clock. A wait that a stop ends need not look. -/
def Event.reading? : Event → Option Instant
  | .created true now | .awoke false now | .started now | .closed now => some now
  | _ => none

def Move.reading? : Move → Option Instant
  | .event e => e.reading?
  | .requestStop => none

def readings (moves : List Move) : List Instant := moves.filterMap Move.reading?

theorem readings_concat (moves : List Move) (event : Event) :
    readings (moves ++ [.event event]) = readings moves ++ event.reading?.toList := by
  have one : readings [.event event] = event.reading?.toList := by
    unfold readings
    cases read : event.reading? with
    | none => exact List.filterMap_cons_none read
    | some now => exact List.filterMap_cons_some read
  rw [← one]
  exact List.filterMap_append

section Plan

variable (p : Params) (seen : List Instant)

/-- A burst is not due later than an instant. The first reading is the start of the run. -/
def DueBy (index nanos : Nat) : Prop :=
  ∃ start, seen.head? = some start ∧
    start.nanos + p.initialDelay.nanos + index * p.burstInterval.nanos ≤ nanos

def Burst.OnPlan (b : Burst) : Prop :=
  ∃ start, seen.head? = some start ∧ ∀ t, b.target = some t →
    t.nanos = start.nanos + p.initialDelay.nanos + b.index * p.burstInterval.nanos

/-- A recording began when its burst was due, and the clock has come to the given slot of it. -/
structure Recording.OnPlan (r : Recording) (slot : Nat) : Prop where
  burst : r.burst.OnPlan p seen
  due : DueBy p seen r.burst.index r.started.nanos
  reached : ∃ now ∈ seen, r.started.nanos + slot * p.samplingInterval.nanos ≤ now.nanos

def Phase.OnPlan : Phase → Prop
  | .creating => seen = []
  | .awaitingBurst b | .publishing b _ _ => b.OnPlan p seen
  | .starting b => b.OnPlan p seen ∧ ∃ now ∈ seen, DueBy p seen b.index now.nanos
  | .awaitingSlot r | .closing r _ => r.OnPlan p seen (r.slot - 1)
  | .capturing r => r.OnPlan p seen r.slot
  | .completing | .ended | .broken _ => True

/-- A burst that is over began when it was due and took the intervals between its captures. -/
structure BurstEntry.OnPlan (index : Nat) (e : BurstEntry) : Prop where
  due : DueBy p seen index e.started.nanos
  took : e.started.nanos + (e.captures.length - 1) * p.samplingInterval.nanos ≤ e.closed.nanos
  shown : e.closed ∈ seen

end Plan

section Growth

variable {p : Params} {seen : List Instant}

theorem head?_append {start : Instant} (first : seen.head? = some start) (more : List Instant) :
    (seen ++ more).head? = some start := by
  rw [List.head?_append, first, Option.some_or]

theorem DueBy.append {index nanos : Nat} (h : DueBy p seen index nanos) (more : List Instant) :
    DueBy p (seen ++ more) index nanos := by
  obtain ⟨start, first, due⟩ := h
  exact ⟨start, head?_append first more, due⟩

theorem DueBy.later {index nanos later : Nat} (h : DueBy p seen index nanos)
    (le : nanos ≤ later) : DueBy p seen index later := by
  obtain ⟨start, first, due⟩ := h
  exact ⟨start, first, Nat.le_trans due le⟩

theorem Burst.OnPlan.append {b : Burst} (h : b.OnPlan p seen) (more : List Instant) :
    b.OnPlan p (seen ++ more) := by
  obtain ⟨start, first, target⟩ := h
  exact ⟨start, head?_append first more, target⟩

theorem Recording.OnPlan.append {r : Recording} {slot : Nat} (h : r.OnPlan p seen slot)
    (more : List Instant) : r.OnPlan p (seen ++ more) slot := by
  obtain ⟨now, shown, reached⟩ := h.reached
  exact ⟨h.burst.append more, h.due.append more, now, List.mem_append_left _ shown, reached⟩

theorem BurstEntry.OnPlan.append {index : Nat} {e : BurstEntry} (h : e.OnPlan p seen index)
    (more : List Instant) : e.OnPlan p (seen ++ more) index :=
  ⟨h.due.append more, h.took, List.mem_append_left _ h.shown⟩

theorem exists_deadline {now : Instant} {deadline : Option Instant}
    (awake : Run.mayAwake false now deadline = true) :
    ∃ t, deadline = some t ∧ t.nanos ≤ now.nanos := by
  unfold Run.mayAwake at awake
  cases deadline with
  | none => cases awake
  | some t => exact ⟨t, rfl, of_decide_eq_true awake⟩

theorem nanos_of_due? {r : Recording} {t : Instant} (due : r.due? p = some t) :
    t.nanos = r.started.nanos + r.slot * p.samplingInterval.nanos := by
  unfold Recording.due? at due
  obtain ⟨offset, scaled, sum⟩ := Option.bind_eq_some_iff.1 due
  rw [Duration.scale?_eq_some_iff] at scaled
  rw [Instant.add?_eq_some_iff] at sum
  omega

theorem Burst.onPlan_first (p : Params) (now : Instant) : (Burst.first p now).OnPlan p [now] := by
  refine ⟨now, rfl, fun t target => ?_⟩
  have sum := Instant.add?_eq_some_iff.1 target
  have none_before : (Burst.first p now).index * p.burstInterval.nanos = 0 := Nat.zero_mul _
  omega

-- The next burst is due an interval behind this one's target, whenever this one began.
theorem Burst.OnPlan.next {b : Burst} (h : b.OnPlan p seen) : (b.next p).OnPlan p seen := by
  obtain ⟨start, first, due⟩ := h
  refine ⟨start, first, fun t target => ?_⟩
  obtain ⟨u, old, sum⟩ := Option.bind_eq_some_iff.1 target
  have last := due u old
  have added := Instant.add?_eq_some_iff.1 sum
  have more : (b.next p).index * p.burstInterval.nanos =
      b.index * p.burstInterval.nanos + p.burstInterval.nanos := Nat.succ_mul _ _
  omega

theorem onPlan_enterBurst {r : Run} {b : Burst} (h : b.OnPlan p seen) :
    (r.enterBurst p b).phase.OnPlan p seen := by
  unfold Run.enterBurst
  split
  · exact h
  · trivial

theorem onPlan_slotPhase {r : Recording} (h : r.OnPlan p seen (r.slot - 1)) :
    (Run.slotPhase p r).OnPlan p seen := by
  unfold Run.slotPhase
  split <;> exact h

end Growth

/-- What the clock has shown fits the plan of the run: its bursts, and the phase it is in. -/
structure Timely (p : Params) (j : Journal) (seen : List Instant) (r : Run) : Prop where
  phase : r.phase.OnPlan p seen
  bursts : ∀ k (e : BurstEntry), j.bursts[k]? = some e → e.OnPlan p seen k

theorem Timely.keep {p : Params} {j k : Journal} {seen more : List Instant} {r r' : Run}
    (h : Timely p j seen r) (bursts : k.bursts = j.bursts)
    (phase : r'.phase.OnPlan p (seen ++ more)) : Timely p k (seen ++ more) r' :=
  ⟨phase, fun i e place => (h.bursts i e (bursts ▸ place)).append more⟩

theorem Timely.step {p : Params} {j : Journal} {seen : List Instant} {r r' : Run} {event : Event}
    (h : Timely p j seen r) (fits : r.Fits p j) (step : r.Step p event r')
    (forward : (seen ++ event.reading?.toList).Pairwise (· ≤ ·)) :
    Timely p (j.note (.event event)) (seen ++ event.reading?.toList) r' := by
  have plan := h.phase
  have phase_fits := fits.phase
  have behind : ∀ now, event.reading? = some now → ∀ earlier ∈ seen, earlier.nanos ≤ now.nanos := by
    intro now read earlier shown
    rw [read] at forward
    exact (List.pairwise_append.1 forward).2.2 earlier shown now (List.mem_singleton_self now)
  cases step with
  | available now at_phase =>
    rw [at_phase] at plan
    obtain rfl : seen = [] := plan
    exact h.keep rfl (onPlan_enterBurst (Burst.onPlan_first p now))
  | unavailable now at_phase => exact h.keep rfl trivial
  | burstStopped b now at_phase => exact h.keep rfl trivial
  | burstDue b now at_phase awake =>
    rw [at_phase] at plan
    obtain ⟨t, target, reached⟩ := exists_deadline awake
    obtain ⟨start, first, due⟩ := plan
    have at_target := due t target
    have onward := head?_append first [now]
    exact h.keep rfl ⟨⟨start, onward, due⟩, now, List.mem_concat_self, start, onward, by omega⟩
  | started b now at_phase =>
    rw [at_phase] at plan
    obtain ⟨onPlan, earlier, shown, due⟩ := plan
    have late := behind now rfl earlier shown
    refine h.keep rfl (onPlan_slotPhase ⟨onPlan.append _, ?_, now, List.mem_concat_self, ?_⟩)
    · exact (due.append _).later late
    · exact Nat.le_of_eq (by rw [Recording.begin, Nat.zero_sub, Nat.zero_mul, Nat.add_zero])
  | slotStopped recording now at_phase =>
    rw [at_phase] at plan
    exact h.keep rfl (plan.append _)
  | slotDue recording now at_phase awake =>
    rw [at_phase] at plan
    obtain ⟨t, deadline, reached⟩ := exists_deadline awake
    have at_slot := nanos_of_due? deadline
    have onward : recording.OnPlan p (seen ++ [now]) (recording.slot - 1) := plan.append _
    exact h.keep rfl ⟨onward.burst, onward.due, now, List.mem_concat_self, by omega⟩
  | captured recording met result at_phase =>
    rw [at_phase] at plan
    have onward : recording.OnPlan p (seen ++ []) recording.slot := plan.append _
    refine h.keep rfl (onPlan_slotPhase ⟨?_, ?_, ?_⟩)
    · rw [afterCapture_burst]
      exact onward.burst
    · rw [afterCapture_burst, afterCapture_started]
      exact onward.due
    · rw [afterCapture_started, afterCapture_slot]
      exact onward.reached
  | closed recording interrupted now at_phase =>
    rw [at_phase] at plan phase_fits
    obtain ⟨at_burst, records, -⟩ := phase_fits
    obtain ⟨earlier, shown, reached⟩ := plan.reached
    have late := behind now rfl earlier shown
    refine ⟨plan.burst.append _, fun k e place => ?_⟩
    rw [bursts_closed records now, List.getElem?_append] at place
    split at place
    · exact (h.bursts k e place).append _
    · rename_i last
      rw [List.getElem?_singleton] at place
      split at place
      · rename_i first
        cases place
        have index : k = recording.burst.index := by
          rw [← at_burst.length]
          omega
        rw [index]
        refine ⟨plan.due.append _, ?_, List.mem_concat_self⟩
        dsimp only
        rw [← records.slot]
        exact Nat.le_trans reached late
      · cases place
  | publishedLast b profile at_phase => exact h.keep rfl trivial
  | published b profile at_phase =>
    rw [at_phase] at plan
    exact h.keep rfl (onPlan_enterBurst (plan.append _).next)
  | completed at_phase => exact h.keep rfl trivial
  | broke message may_break => exact h.keep rfl trivial

theorem readings_requestStop (moves : List Move) :
    readings (moves ++ [.requestStop]) = readings moves := by
  unfold readings
  rw [List.filterMap_append]
  exact List.append_nil _

section Histories

variable {p : Params} {sink : Sink} {store after : PendingStore} {moves : List Move} {t : Session}

theorem timely_replay? (played : (Session.fresh p sink).replay? store moves = some (t, after))
    (forward : (readings moves).Pairwise (· ≤ ·)) :
    Timely p (.ofMoves moves) (readings moves) t.run := by
  refine Session.history_induction (fun moves t => (readings moves).Pairwise (· ≤ ·) →
    Timely p (.ofMoves moves) (readings moves) t.run) ?_ ?_ ?_ played forward
  · exact fun _ => ⟨rfl, nofun⟩
  · intro moves s mid _ before forward
    rw [readings_requestStop] at forward ⊢
    rw [Journal.ofMoves, List.foldl_append]
    exact ⟨(before forward).phase, (before forward).bursts⟩
  · intro moves s mid event u next earlier _ step before forward
    rw [readings_concat] at forward ⊢
    rw [Journal.ofMoves, List.foldl_append]
    have fits := Session.fits_replay? earlier
    exact (before (List.pairwise_append.1 forward).1).step fits.run step forward

theorem phase_ne_creating {r r' : Run} {event : Event} (step : r.Step p event r') :
    r'.phase ≠ .creating := by
  have enter : ∀ (q : Run) (b : Burst), (q.enterBurst p b).phase ≠ .creating := by
    intro q b
    unfold Run.enterBurst
    split <;> nofun
  have slot : ∀ q : Recording, Run.slotPhase p q ≠ .creating := by
    intro q
    unfold Run.slotPhase
    split <;> nofun
  cases step with
  | available now at_phase | published b profile at_phase => exact enter _ _
  | started b now at_phase | captured recording met result at_phase => exact slot _
  | _ => nofun

-- The factory answers once, and if it has a capturer the first reading is made then.
theorem created_of_mem {start : Instant}
    (played : (Session.fresh p sink).replay? store moves = some (t, after))
    (available : .event (.created true start) ∈ moves) :
    (Journal.ofMoves moves).capturer = some true ∧ (readings moves).head? = some start := by
  have traced := Session.history_induction (fun moves t =>
    (t.run.phase = .creating → readings moves = []) ∧
      (.event (.created true start) ∈ moves → (Journal.ofMoves moves).capturer = some true ∧
        (readings moves).head? = some start)) ⟨fun _ => rfl, nofun⟩ ?_ ?_ played
  · exact traced.2 available
  · rintro moves s mid - ⟨unread, first⟩
    rw [readings_requestStop, Journal.ofMoves, List.foldl_append]
    refine ⟨unread, fun member => ?_⟩
    rcases List.mem_append.1 member with earlier | last
    · exact first earlier
    · cases List.mem_singleton.1 last
  · rintro moves s mid event u next - - step ⟨unread, first⟩
    rw [readings_concat, Journal.ofMoves, List.foldl_append]
    refine ⟨fun contrary => absurd contrary (phase_ne_creating step), fun member => ?_⟩
    generalize u.run = run at step
    rcases List.mem_append.1 member with earlier | last
    · obtain ⟨capturer, head⟩ := first earlier
      refine ⟨?_, head?_append head _⟩
      have made : s.run.phase ≠ .creating := fun creating => by
        rw [unread creating] at head
        cases head
      cases step with
      | available now at_phase | unavailable now at_phase => exact absurd at_phase made
      | _ => exact capturer
    · cases List.mem_singleton.1 last
      cases step with
      | available now at_phase =>
        rw [unread at_phase]
        exact ⟨rfl, rfl⟩

end Histories

/-- What the nominal duration promises of a run that began and came back when its clock showed
these instants. -/
structure TookNominalTime (p : Params) (start back : Instant) (profiles : List Profile) :
    Prop where
  nominal : ∃ d, p.nominal? = some d ∧
    d.nanos = p.initialDelay.nanos + (p.bursts.toNat - 1) * p.burstInterval.nanos +
      (max p.samplesPerBurst.toNat 1 - 1) * p.samplingInterval.nanos ∧
    start.nanos + d.nanos ≤ back.nanos
  spans : ∀ q ∈ profiles,
    (max p.samplesPerBurst.toNat 1 - 1) * p.samplingInterval.nanos ≤ q.duration.nanos

theorem BurstEntry.OnPlan.span_le {seen : List Instant} {p : Params} {index : Nat}
    {e : BurstEntry} (h : e.OnPlan p seen index) (full : e.Full p) :
    e.started.nanos + burstNanos p ≤ e.closed.nanos := by
  unfold burstNanos
  rw [← full]
  exact h.took

-- The last of all bursts begins behind all intervals between bursts.
theorem took_of_full {p : Params} {seen : List Instant} {start back : Instant}
    {bursts : List BurstEntry} (first : seen.head? = some start)
    (onPlan : ∀ k (e : BurstEntry), bursts[k]? = some e → e.OnPlan p seen k)
    (positive : p.bursts ≠ 0) (all : bursts.length = p.bursts.toNat)
    (full : ∀ e ∈ bursts, e.Full p) (behind : ∀ now ∈ seen, now ≤ back) :
    TookNominalTime p start back (bursts.map (BurstEntry.profile p)) := by
  have some_burst : p.bursts.toNat ≠ 0 := fun zero => positive (UInt32.toNat_inj.1 zero)
  have span : (max p.samplesPerBurst.toNat 1 - 1) * p.samplingInterval.nanos = burstNanos p := by
    unfold burstNanos
    congr 1
    omega
  refine ⟨?_, ?_⟩
  · have inside : p.bursts.toNat - 1 < bursts.length := by omega
    have place := List.getElem?_eq_getElem inside
    have last := onPlan _ _ place
    have closed := last.span_le (full _ (List.getElem_mem inside))
    obtain ⟨other, same, due⟩ := last.due
    cases first.symm.trans same
    have shown : (bursts[p.bursts.toNat - 1]).closed.nanos ≤ back.nanos := behind _ last.shown
    have whole : start.nanos + nominalNanos p ≤ back.nanos := by
      unfold nominalNanos
      omega
    have small : nominalNanos p < Duration.limit := by
      have bound := back.nanos_lt
      unfold Instant.limit at bound
      unfold Duration.limit
      omega
    refine ⟨⟨nominalNanos p, small⟩, ?_, ?_, whole⟩
    · rw [nominal?_eq_ofNanos? positive, Duration.ofNanos?_eq_some_iff]
    · rw [span]
      rfl
  · intro q member
    obtain ⟨e, burst, rfl⟩ := List.mem_map.1 member
    obtain ⟨k, place⟩ := List.getElem?_of_mem burst
    have took := (onPlan k e place).span_le (full e burst)
    rw [span]
    unfold BurstEntry.profile Instant.since
    dsimp only
    omega

/-- **A run that nobody stops takes its nominal time.** Whatever the clock shows, as long as it does
not go back, and however late it wakes the run: a run that had a capturer and returned unstopped
has a nominal duration, took at least that long, and so did each of its profiles for its own part.
A plan without a nominal duration ends only by a stop. -/
theorem unstopped_run_takes_nominal_time {p : Params} {sink : Sink} {store after : PendingStore}
    {moves : List Move} {t : Session} {s : Summary} {start back : Instant}
    (played : (Session.fresh p sink).replay? store moves = some (t, after))
    (returned : t.run.result? = some s) (positive : p.bursts ≠ 0)
    (available : .event (.created true start) ∈ moves)
    (forward : (readings moves ++ [back]).Pairwise (· ≤ ·)) :
    (s.stopped = false → ∃ profiles, t.HandedOver sink store after profiles ∧
      TookNominalTime p start back profiles) ∧
      (p.nominal? = none → s.stopped = true) := by
  have fits := Session.fits_replay? played
  obtain ⟨capturer, first⟩ := created_of_mem played available
  obtain ⟨shown, -, last⟩ := List.pairwise_append.1 forward
  have timely := timely_replay? played shown
  have took : s.stopped = false → ∃ profiles, t.HandedOver sink store after profiles ∧
      TookNominalTime p start back profiles := by
    intro unstopped
    rcases fits.run.idled_or_accounts returned with idled | ⟨-, accounts⟩
    · cases capturer.symm.trans idled.capturer
    · obtain ⟨all, full⟩ := accounts.unstopped.1 unstopped
      exact ⟨_, fits.handedOver returned, took_of_full first timely.bursts positive all full
        (fun now seen => last now seen back (List.mem_singleton_self back))⟩
  refine ⟨took, fun endless => ?_⟩
  by_contra unstopped
  obtain ⟨profiles, -, nominal⟩ := took (Bool.eq_false_iff.2 unstopped)
  obtain ⟨d, known, -⟩ := nominal.nominal
  cases endless.symm.trans known

def pacedParams : Params :=
  ⟨⟨5, by decide⟩, 2, ⟨10, by decide⟩, 2, ⟨3, by decide⟩, true⟩

def wokenLate : List Move :=
  [.event (.created true ⟨100, by decide⟩), .event (.awoke false ⟨108, by decide⟩),
    .event (.started ⟨109, by decide⟩), .event (.awoke false ⟨109, by decide⟩),
    .event (.captured [] (.ok [])), .event (.awoke false ⟨115, by decide⟩),
    .event (.captured [] (.error (.io "maps unreadable"))), .event (.closed ⟨120, by decide⟩),
    .event .published, .event (.awoke false ⟨121, by decide⟩),
    .event (.started ⟨122, by decide⟩), .event (.awoke false ⟨122, by decide⟩),
    .event (.captured [] (.ok [])), .event (.awoke false ⟨125, by decide⟩),
    .event (.captured [] (.ok [])), .event (.closed ⟨126, by decide⟩), .event .published,
    .event .completed]

theorem unstopped_run_takes_nominal_time_woken_late :
    ∃ t after, (Session.fresh pacedParams .pending).replay? .empty wokenLate = some (t, after) ∧
      t.run.result? = some ⟨2, 3, 1, 1, false, false⟩ ∧
      ∃ profiles, t.HandedOver .pending .empty after profiles ∧
        TookNominalTime pacedParams ⟨100, by decide⟩ ⟨130, by decide⟩ profiles :=
  ⟨_, _, rfl, rfl, (@unstopped_run_takes_nominal_time pacedParams .pending .empty _ wokenLate _ _
    ⟨100, by decide⟩ ⟨130, by decide⟩ rfl rfl (by decide) List.mem_cons_self (by decide)).1 rfl⟩

end BurstProfiler.Schedule
