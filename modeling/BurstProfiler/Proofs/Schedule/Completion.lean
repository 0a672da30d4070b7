import BurstProfiler.Proofs.Schedule.Delivery

/-! A run that nobody stops comes to its end if the clock can show the times at which it is due.
The history that shows it is the earliest one: every wait ends at its deadline and nothing else
takes time, so a burst begins when it is due or when the burst before it is through. -/

set_option autoImplicit false

namespace BurstProfiler.Schedule

-- The time from the start of a burst to its last slot, and between the starts of two bursts.
def burstNanos (p : Params) : Nat := (p.samplesPerBurst.toNat - 1) * p.samplingInterval.nanos

def paceNanos (p : Params) : Nat := max p.burstInterval.nanos (burstNanos p)

/-- The due times of the earliest run from an instant on are instants. -/
def WithinClock (p : Params) (now : Instant) : Prop :=
  now.nanos + p.initialDelay.nanos + (p.bursts.toNat - 1) * paceNanos p + burstNanos p <
    Instant.limit

def Burst.DueFrom (p : Params) (start : Nat) (b : Burst) : Prop :=
  b.index < p.bursts.toNat ∧
    ∃ t, b.target = some t ∧ t.nanos = start + b.index * p.burstInterval.nanos

def Phase.OnTime (p : Params) (start clock : Nat) : Phase → Prop
  | .awaitingBurst b | .starting b =>
    b.DueFrom p start ∧ clock ≤ start + b.index * paceNanos p
  | .awaitingSlot r | .capturing r =>
    r.burst.DueFrom p start ∧ r.slot < p.samplesPerBurst.toNat ∧
      r.started.nanos ≤ start + r.burst.index * paceNanos p ∧
      clock ≤ r.started.nanos + r.slot * p.samplingInterval.nanos
  | .closing r false =>
    r.burst.DueFrom p start ∧ clock ≤ start + r.burst.index * paceNanos p + burstNanos p
  | .publishing b _ false =>
    b.DueFrom p start ∧ clock ≤ start + b.index * paceNanos p + burstNanos p
  | .completing | .ended => True
  | _ => False

/-- An event of a run with a capturer that nobody stops; a capture gives the answer at hand. -/
def Event.Undisturbed (answer : Capture) : Event → Prop
  | .awoke stopped _ => stopped = false
  | .captured met result => (⟨met, result⟩ : Capture) = answer
  | .created _ _ | .broke _ => False
  | _ => True

section Times

variable {p : Params} {start : Nat}

theorem ofNanos?_of_lt {n : Nat} (small : n < Instant.limit) :
    ∃ t, Instant.ofNanos? n = some t ∧ t.nanos = n := by
  unfold Instant.ofNanos?
  rw [dif_pos small]
  exact ⟨_, rfl, rfl⟩

theorem add?_of_lt {t : Instant} {d : Duration} (small : t.nanos + d.nanos < Instant.limit) :
    ∃ u, t.add? d = some u ∧ u.nanos = t.nanos + d.nanos :=
  ofNanos?_of_lt small

-- A slot's offset is a duration because the clock is shorter than the longest one.
theorem due?_of_lt {r : Recording}
    (small : r.started.nanos + r.slot * p.samplingInterval.nanos < Instant.limit) :
    ∃ t, r.due? p = some t ∧ t.nanos = r.started.nanos + r.slot * p.samplingInterval.nanos := by
  have short : r.slot * p.samplingInterval.nanos < Duration.limit := by
    unfold Instant.limit at small
    unfold Duration.limit
    omega
  unfold Recording.due? Duration.scale? Duration.ofNanos?
  rw [dif_pos short]
  exact add?_of_lt small

theorem index_mul_pace_le {b : Burst} (due : b.DueFrom p start) :
    b.index * paceNanos p ≤ (p.bursts.toNat - 1) * paceNanos p := by
  apply Nat.mul_le_mul_right
  have inside := due.1
  omega

theorem slot_mul_le {slot : Nat} (inside : slot < p.samplesPerBurst.toNat) :
    slot * p.samplingInterval.nanos ≤ burstNanos p := by
  apply Nat.mul_le_mul_right
  omega

theorem afterCapture_started (r : Recording) (met : List Module) (result : Except Error Sample) :
    (r.afterCapture met result).started = r.started := by
  unfold Recording.afterCapture
  split <;> rfl

end Times

section Steps

variable {p : Params} {start : Nat} {clock : Instant}

theorem onTime_enterBurst {r : Run} {b : Burst}
    (due : b.index < p.bursts.toNat → b.DueFrom p start)
    (early : clock.nanos ≤ start + b.index * paceNanos p) :
    (r.enterBurst p b).phase.OnTime p start clock.nanos := by
  unfold Run.enterBurst
  by_cases more : b.index < p.bursts.toNat
  · rw [if_pos more]
    exact ⟨due more, early⟩
  · rw [if_neg more]
    trivial

theorem onTime_slotPhase {r : Recording} (due : r.burst.DueFrom p start)
    (began : r.started.nanos ≤ start + r.burst.index * paceNanos p)
    (early : clock.nanos ≤ r.started.nanos + r.slot * p.samplingInterval.nanos)
    (behind : clock.nanos ≤ r.started.nanos + burstNanos p) :
    (Run.slotPhase p r).OnTime p start clock.nanos := by
  unfold Run.slotPhase
  by_cases more : r.slot < p.samplesPerBurst.toNat
  · rw [if_pos more]
    exact ⟨due, more, began, early⟩
  · rw [if_neg more]
    refine ⟨due, ?_⟩
    omega

-- A wait can come back at its deadline, or at once if that is past.
theorem later_le {t : Instant} {bound : Nat} (early : clock.nanos ≤ bound) (due : t.nanos ≤ bound) :
    t ≤ clock.later t ∧ (clock.later t).nanos ≤ bound := by
  unfold Instant.later
  by_cases late : clock ≤ t
  · rw [if_pos late]
    exact ⟨Nat.le_refl _, due⟩
  · rw [if_neg late]
    exact ⟨Nat.le_of_not_le late, early⟩

theorem Burst.DueFrom.next {b : Burst} (due : b.DueFrom p start)
    (within : start + (p.bursts.toNat - 1) * paceNanos p + burstNanos p < Instant.limit)
    (inside : b.index + 1 < p.bursts.toNat) : (b.next p).DueFrom p start := by
  obtain ⟨-, t, target, nanos⟩ := due
  have interval : (b.index + 1) * p.burstInterval.nanos ≤ (b.index + 1) * paceNanos p :=
    Nat.mul_le_mul_left _ (Nat.le_max_left _ _)
  have last : (b.index + 1) * paceNanos p ≤ (p.bursts.toNat - 1) * paceNanos p := by
    apply Nat.mul_le_mul_right
    omega
  rw [Nat.succ_mul] at interval
  obtain ⟨u, sum, nanos'⟩ := add?_of_lt (t := t) (d := p.burstInterval) (by omega)
  refine ⟨inside, u, ?_, ?_⟩
  · unfold Burst.next
    rw [target]
    exact sum
  · unfold Burst.next
    rw [nanos', nanos, Nat.succ_mul, Nat.add_assoc]

theorem exists_undisturbed_step (within : start + (p.bursts.toNat - 1) * paceNanos p +
      burstNanos p < Instant.limit) {r : Run} (onTime : r.phase.OnTime p start clock.nanos)
    (more : r.result? = none) (answer : Capture) :
    ∃ event r' later, event.Undisturbed answer ∧ r.step? p event = some r' ∧
      r'.phase.OnTime p start (Instant.nanos later) := by
  obtain ⟨phase, state, summary⟩ := r
  cases phase with
  | awaitingBurst b =>
    obtain ⟨due, early⟩ := onTime
    obtain ⟨inside, t, target, nanos⟩ := due
    have pace : b.index * p.burstInterval.nanos ≤ b.index * paceNanos p :=
      Nat.mul_le_mul_left _ (Nat.le_max_left _ _)
    have both : t ≤ clock.later t ∧ (clock.later t).nanos ≤ start + b.index * paceNanos p :=
      later_le early (by omega)
    have stepped : Run.step? p ⟨.awaitingBurst b, state, summary⟩ (.awoke false (clock.later t)) =
        some ⟨.starting b, .inBurst, summary⟩ := by
      simp only [Run.step?, target, Run.mayAwake, both.1]
      rfl
    exact ⟨.awoke false (clock.later t), _, clock.later t, rfl, stepped,
      ⟨inside, t, target, nanos⟩, both.2⟩
  | starting b =>
    obtain ⟨due, early⟩ := onTime
    refine ⟨.started clock, _, clock, trivial, rfl, ?_⟩
    exact onTime_slotPhase due early (Nat.le_add_right _ _) (Nat.le_add_right _ _)
  | awaitingSlot recording =>
    obtain ⟨due, inside, began, early⟩ := onTime
    have last := index_mul_pace_le due
    have slot := slot_mul_le inside
    obtain ⟨t, deadline, nanos⟩ := due?_of_lt (p := p) (r := recording) (by omega)
    have reached : t ≤ t := Nat.le_refl t.nanos
    have stepped : Run.step? p ⟨.awaitingSlot recording, state, summary⟩ (.awoke false t) =
        some ⟨.capturing recording, state, summary⟩ := by
      simp only [Run.step?, deadline, Run.mayAwake, reached]
      rfl
    exact ⟨.awoke false t, _, t, rfl, stepped, due, inside, began, Nat.le_of_eq nanos⟩
  | capturing recording =>
    obtain ⟨due, inside, began, early⟩ := onTime
    have slot := slot_mul_le inside
    refine ⟨.captured answer.met answer.result, _, clock, rfl, rfl, ?_⟩
    apply onTime_slotPhase
    · rw [afterCapture_burst]
      exact due
    · rw [afterCapture_started, afterCapture_burst]
      exact began
    · rw [afterCapture_started, afterCapture_slot, Nat.succ_mul]
      omega
    · rw [afterCapture_started]
      omega
  | closing recording interrupted =>
    cases interrupted with
    | true => cases onTime
    | false => exact ⟨.closed clock, _, clock, trivial, rfl, onTime⟩
  | publishing b profile interrupted =>
    cases interrupted with
    | true => cases onTime
    | false =>
      obtain ⟨due, early⟩ := onTime
      refine ⟨.published, _, clock, trivial, rfl, ?_⟩
      have length : burstNanos p ≤ paceNanos p := Nat.le_max_right _ _
      have next : (b.index + 1) * paceNanos p = b.index * paceNanos p + paceNanos p :=
        Nat.succ_mul _ _
      apply onTime_enterBurst
      · exact fun inside => due.next within inside
      · unfold Burst.next
        dsimp only
        omega
  | completing => exact ⟨.completed, _, clock, trivial, rfl, trivial⟩
  | ended => cases more
  | creating | broken message => cases onTime

end Steps

section Histories

variable {p : Params}

theorem note_undisturbed {j : Journal} {event : Event} {answer : Capture}
    (undisturbed : event.Undisturbed answer) :
    (j.note (.event event)).capturer = j.capturer ∧
      ((j.note (.event event)).captures = j.captures ∨
        (j.note (.event event)).captures = j.captures ++ [answer]) := by
  cases event with
  | created available now => cases undisturbed
  | broke message => cases undisturbed
  | captured met result =>
    obtain rfl := undisturbed
    exact ⟨rfl, .inr rfl⟩
  | _ => exact ⟨rfl, .inl rfl⟩

theorem step?_of_undisturbed {s : Session} (store : PendingStore) {event : Event} {r : Run}
    {answer : Capture} (undisturbed : event.Undisturbed answer)
    (unstopped : s.stopRequested = false) (stepped : s.run.step? s.params event = some r) :
    s.step? store event =
      some ({ (s.deliver store event).1 with run := r }, (s.deliver store event).2) := by
  have agrees : s.agrees event = true := by
    cases event with
    | awoke stopped now =>
      obtain rfl := undisturbed
      unfold Session.agrees
      rw [unstopped]
      rfl
    | _ => rfl
  unfold Session.step?
  rw [if_pos agrees, stepped]
  rfl

-- The induction is on a bound for the number of steps that may still follow.
theorem exists_unstopped_rest {script : Nat → Capture} {start : Nat}
    (within : start + (p.bursts.toNat - 1) * paceNanos p + burstNanos p < Instant.limit)
    (bound : Nat) {s : Session} {clock : Instant} {j : Journal} {calls : Nat}
    (store : PendingStore) (few : s.remaining < bound) (params : s.params = p)
    (unstopped : s.stopRequested = false) (onTime : s.run.phase.OnTime p start clock.nanos)
    (captures : j.captures = (List.range calls).map script) :
    ∃ moves t after, s.replay? store moves = some (t, after) ∧ t.run.result?.isSome ∧
      Move.requestStop ∉ moves ∧ (moves.foldl Journal.note j).capturer = j.capturer ∧
      (moves.foldl Journal.note j).Follows script := by
  induction bound generalizing s clock j calls store with
  | zero => exact absurd few (Nat.not_lt_zero _)
  | succ bound ih =>
    cases ended : s.run.result? with
    | some summary =>
      refine ⟨[], s, store, rfl, ?_, List.not_mem_nil, rfl, Journal.follows_of_captures captures⟩
      rw [ended]
      rfl
    | none =>
      obtain ⟨event, r, later, undisturbed, stepped, onTime'⟩ :=
        exists_undisturbed_step within onTime ended (script calls)
      rw [← params] at stepped
      have moved := step?_of_undisturbed store undisturbed unstopped stepped
      obtain ⟨capturer, noted⟩ := note_undisturbed (j := j) undisturbed
      obtain ⟨calls', captures'⟩ : ∃ calls',
          (j.note (.event event)).captures = (List.range calls').map script := by
        rcases noted with same | more
        · exact ⟨calls, same.trans captures⟩
        · refine ⟨calls + 1, ?_⟩
          rw [more, captures, List.range_succ, List.map_append]
          rfl
      have fewer : Session.remaining { (s.deliver store event).1 with run := r } < bound :=
        Nat.lt_of_lt_of_le (Session.remaining_lt_of_step? moved) (Nat.le_of_lt_succ few)
      obtain ⟨moves, t, after, played, returned, free, kept, follows⟩ :=
        ih (s.deliver store event).2 fewer ((Session.deliver_params s store event).trans params)
          ((Session.deliver_stopRequested s store event).trans unstopped) onTime' captures'
      refine ⟨.event event :: moves, t, after, ?_, returned, ?_, kept.trans capturer, follows⟩
      · rw [Session.replay?, Session.move?, moved]
        exact played
      · intro member
        rcases List.mem_cons.1 member with contrary | later
        · cases contrary
        · exact free later

/-- Whatever the capturer answers, there is a history without a stop in which the run returns. -/
theorem exists_unstopped_history (p : Params) (script : Nat → Capture) (sink : Sink)
    (store : PendingStore) {now : Instant} (within : WithinClock p now) :
    ∃ moves t after, (Session.fresh p sink).replay? store moves = some (t, after) ∧
      t.run.result?.isSome ∧ Move.requestStop ∉ moves ∧
      (Journal.ofMoves moves).capturer = some true ∧ (Journal.ofMoves moves).Follows script := by
  have onTime : (Run.fresh.enterBurst p (.first p now)).phase.OnTime p
      (now.nanos + p.initialDelay.nanos) now.nanos := by
    apply onTime_enterBurst
    · intro inside
      unfold WithinClock at within
      obtain ⟨t, sum, nanos⟩ := add?_of_lt (t := now) (d := p.initialDelay) (by omega)
      refine ⟨inside, t, sum, ?_⟩
      rw [nanos, Burst.first, Nat.zero_mul, Nat.add_zero]
    · omega
  have untouched : (Journal.blank.note (.event (.created true now))).captures =
      (List.range 0).map script := rfl
  obtain ⟨moves, t, after, played, returned, free, capturer, follows⟩ :=
    exists_unstopped_rest (s := { Session.fresh p sink with
      run := Run.fresh.enterBurst p (.first p now) })
      within _ store (Nat.lt_succ_self _) rfl rfl onTime untouched
  refine ⟨.event (.created true now) :: moves, t, after, ?_, returned, ?_, capturer, follows⟩
  · exact played
  · intro member
    rcases List.mem_cons.1 member with contrary | later
    · cases contrary
    · exact free later

end Histories

end BurstProfiler.Schedule
