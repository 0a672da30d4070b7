import BurstProfiler.Proofs.Schedule.CallLaw

/-! The values that the state of a run takes, told by a regular expression. A transition sets the
state at most once, and with that it takes the first letter of what its phase left to come. The
state within a burst is taken once for each profile. -/

set_option autoImplicit false

namespace BurstProfiler.Schedule

open RegularExpression (char)

def stopLaw : RegularExpression State := char .stopping * char .stopped

/-- What follows the first burst: more bursts, and an end by itself or by a stop in a burst or in
the wait behind one. -/
def burstsLaw : RegularExpression State :=
  (char State.awaitingBurstInterval * char State.inBurst).star *
    (char .finished + stopLaw + char .awaitingBurstInterval * stopLaw)

def stateLaw : RegularExpression State :=
  char .idle * char .finished +
    char .idle * char .awaitingInitialDelay * (stopLaw + char .inBurst * burstsLaw)

/-- The run is recording a burst or has not yet published it. -/
def Phase.inBurst : Phase → Bool
  | .starting _ | .awaitingSlot _ | .capturing _ | .closing _ _ | .publishing _ _ _ => true
  | _ => false

def Run.Shows (r : Run) : Prop :=
  match r.phase with
  | .creating => r.state = .idle ∧ r.summary.stopped = false
  | .awaitingBurst b =>
    r.state = (if b.index = 0 then .awaitingInitialDelay else .awaitingBurstInterval) ∧
      r.summary.stopped = false
  | .starting _ | .awaitingSlot _ | .capturing _ | .closing _ _ | .publishing _ _ _ =>
    r.state = .inBurst ∧ r.summary.stopped = false
  | .completing =>
    if r.summary.stopped then r.state = .stopping else r.state = .idle ∨ r.state = .inBurst
  | .ended => r.state = if r.summary.stopped then .stopped else .finished
  | .broken _ => r.state.isTerminal = false

/-- The values that may still come of the state. -/
def Run.statesToCome (r : Run) : RegularExpression State :=
  match r.phase with
  | .creating =>
    char .finished + char .awaitingInitialDelay * (stopLaw + char .inBurst * burstsLaw)
  | .awaitingBurst _ => stopLaw + char .inBurst * burstsLaw
  | .starting _ | .awaitingSlot _ | .capturing _ | .closing _ _ | .publishing _ _ _ => burstsLaw
  | .completing => char (if r.summary.stopped then .stopped else .finished)
  | .ended => 1
  | .broken _ => 0

/-- The value that the state took from one run to the next, if it is another. -/
def Run.turn (r r' : Run) : List State := if r'.state = r.state then [] else [r'.state]

theorem Run.mem_of_stays {r r' : Run} {law : Language State} {w : List State}
    (same : r'.state = r.state) (h : w ∈ law) : r.turn r' ++ w ∈ law := by
  rw [turn, if_pos same]
  exact h

theorem Run.mem_of_turns {r r' : Run} {law : Language State} {w : List State}
    (other : r.state ≠ r'.state) (h : r'.state :: w ∈ law) : r.turn r' ++ w ∈ law := by
  rw [turn, if_neg (Ne.symm other)]
  exact h

theorem matches_stateLaw :
    stateLaw.matches' = (char State.idle * Run.fresh.statesToCome).matches' := by
  simp only [stateLaw, Run.statesToCome, Run.fresh, RegularExpression.matches'_mul,
    RegularExpression.matches'_add, mul_add, mul_assoc]

theorem mem_burstsLaw_of_mem {w : List State}
    (h : w ∈ (char State.finished + stopLaw).matches') : w ∈ burstsLaw.matches' :=
  mem_star_mul.2 (.inl (.inl h))

theorem mem_burstsLaw_of_more {w : List State}
    (h : w ∈ (char State.finished + char State.awaitingBurstInterval *
      (stopLaw + char State.inBurst * burstsLaw)).matches') : w ∈ burstsLaw.matches' := by
  rcases h with finished | ⟨_, rfl, rest, more, rfl⟩
  · exact mem_burstsLaw_of_mem (.inl finished)
  · rcases more with stop | burst
    · exact mem_star_mul.2 (.inl (.inr (cons_mem_char_mul stop)))
    · refine mem_star_mul.2 (.inr ?_)
      rw [RegularExpression.matches'_mul, RegularExpression.matches'_mul, mul_assoc]
      exact cons_mem_char_mul (Q := char State.inBurst * burstsLaw) burst

theorem Run.Shows.isTerminal {r : Run} (shows : r.Shows) :
    r.state.isTerminal = r.result?.isSome := by
  obtain ⟨phase, state, summary⟩ := r
  unfold Shows at shows
  cases phase with
  | creating | starting b | awaitingSlot recording | capturing recording
  | closing recording interrupted | publishing b profile interrupted =>
    obtain ⟨rfl, -⟩ := shows
    rfl
  | awaitingBurst b =>
    obtain ⟨rfl, -⟩ := shows
    dsimp only
    split <;> rfl
  | completing =>
    dsimp only at shows
    split at shows
    · cases shows
      rfl
    · rcases shows with rfl | rfl <;> rfl
  | ended =>
    dsimp only at shows ⊢
    rw [shows]
    split <;> rfl
  | broken message => exact shows

theorem shows_conclude {r : Run} (unstopped : r.summary.stopped = false)
    (state : r.state = .idle ∨ r.state = .inBurst) : r.conclude.Shows := by
  simp only [Run.Shows, Run.conclude, unstopped, Bool.false_eq_true, ↓reduceIte]
  exact state

theorem shows_enterBurst {p : Params} {r : Run} {b : Burst}
    (unstopped : r.summary.stopped = false) (state : r.state = .idle ∨ r.state = .inBurst) :
    (r.enterBurst p b).Shows := by
  unfold Run.enterBurst
  split
  · exact ⟨rfl, unstopped⟩
  · exact shows_conclude unstopped state

theorem shows_slotPhase {p : Params} {r : Run} {recording : Recording}
    (state : r.state = .inBurst) (unstopped : r.summary.stopped = false) :
    ({ r with phase := Run.slotPhase p recording } : Run).Shows := by
  unfold Run.slotPhase
  split <;> exact ⟨state, unstopped⟩

theorem Run.Shows.step {p : Params} {r r' : Run} {event : Event} (shows : r.Shows)
    (step : r.Step p event r') : r'.Shows := by
  have going := shows.isTerminal
  rw [step.result?_eq_none] at going
  unfold Run.Shows at shows
  cases step with
  | available now at_phase =>
    rw [at_phase] at shows
    exact shows_enterBurst shows.2 (.inl shows.1)
  | unavailable now at_phase =>
    rw [at_phase] at shows
    exact shows_conclude (r := { r with summary := { r.summary with unavailable := true } })
      shows.2 (.inl shows.1)
  | burstStopped b now at_phase => rfl
  | burstDue b now at_phase due =>
    rw [at_phase] at shows
    exact ⟨rfl, shows.2⟩
  | started b now at_phase =>
    rw [at_phase] at shows
    exact shows_slotPhase shows.1 shows.2
  | captured recording met result at_phase =>
    rw [at_phase] at shows
    exact shows_slotPhase (r := { r with summary := r.summary.afterCapture result }) shows.1
      ((afterCapture_keeps r.summary result).2.2.1.trans shows.2)
  | slotStopped recording now at_phase | slotDue recording now at_phase due
  | closed recording interrupted now at_phase =>
    rw [at_phase] at shows
    exact shows
  | publishedLast b profile at_phase => rfl
  | published b profile at_phase =>
    rw [at_phase] at shows
    exact shows_enterBurst shows.2 (.inr shows.1)
  | completed at_phase => rfl
  | broke message may_break => exact going

theorem statesToCome_slotPhase {p : Params} {r : Run} {recording : Recording}
    (at_phase : r.phase = Run.slotPhase p recording) : r.statesToCome = burstsLaw := by
  unfold Run.statesToCome
  rw [at_phase, Run.slotPhase]
  by_cases more : recording.slot < p.samplesPerBurst.toNat
  · rw [if_pos more]
  · rw [if_neg more]

theorem turn_conclude {r : Run} {w : List State} (h : w ∈ r.conclude.statesToCome.matches')
    (unstopped : r.summary.stopped = false) :
    r.turn r.conclude ++ w ∈ (char State.finished).matches' := by
  simp only [Run.conclude, Run.statesToCome, unstopped, Bool.false_eq_true, ↓reduceIte] at h ⊢
  exact Run.mem_of_stays rfl h

theorem turn_enterBurst {p : Params} {r : Run} {b : Burst} {wait : State} {w : List State}
    (h : w ∈ (r.enterBurst p b).statesToCome.matches') (unstopped : r.summary.stopped = false)
    (awaiting : (if b.index = 0 then State.awaitingInitialDelay else .awaitingBurstInterval) = wait)
    (other : r.state ≠ wait) :
    r.turn (r.enterBurst p b) ++ w ∈
      (char State.finished + char wait * (stopLaw + char State.inBurst * burstsLaw)).matches' := by
  unfold Run.enterBurst at h ⊢
  by_cases more : b.index < p.bursts.toNat
  · rw [if_pos more, awaiting] at h ⊢
    exact Run.mem_of_turns other (.inr (cons_mem_char_mul h))
  · rw [if_neg more] at h ⊢
    exact .inl (turn_conclude h unstopped)

-- What is to come of the state before a transition is the value it takes by it, if it is another,
-- and then what is to come behind it.
theorem statesToCome_step {p : Params} {r r' : Run} {event : Event} (shows : r.Shows)
    (step : r.Step p event r') {w : List State} (h : w ∈ r'.statesToCome.matches') :
    r.turn r' ++ w ∈ r.statesToCome.matches' := by
  unfold Run.Shows at shows
  cases step with
  | available now at_phase =>
    rw [at_phase] at shows
    have entered := turn_enterBurst h shows.2 rfl (by rw [shows.1]; nofun)
    unfold Run.statesToCome
    rw [at_phase]
    exact entered
  | unavailable now at_phase =>
    rw [at_phase] at shows
    have concluded := turn_conclude h shows.2
    unfold Run.statesToCome
    rw [at_phase]
    exact .inl concluded
  | burstStopped b now at_phase =>
    unfold Run.statesToCome at h ⊢
    rw [at_phase] at shows ⊢
    refine Run.mem_of_turns ?_ (.inl (cons_mem_char_mul h))
    rw [shows.1]
    split <;> nofun
  | burstDue b now at_phase due =>
    unfold Run.statesToCome at h ⊢
    rw [at_phase] at shows ⊢
    refine Run.mem_of_turns ?_ (.inr (cons_mem_char_mul h))
    rw [shows.1]
    split <;> nofun
  | started b now at_phase | captured recording met result at_phase =>
    rw [statesToCome_slotPhase rfl] at h
    unfold Run.statesToCome
    rw [at_phase]
    exact Run.mem_of_stays rfl h
  | slotStopped recording now at_phase | slotDue recording now at_phase due
  | closed recording interrupted now at_phase =>
    unfold Run.statesToCome at h ⊢
    rw [at_phase]
    exact Run.mem_of_stays rfl h
  | publishedLast b profile at_phase =>
    unfold Run.statesToCome at h ⊢
    rw [at_phase] at shows ⊢
    refine Run.mem_of_turns (by rw [shows.1]; nofun) ?_
    exact mem_burstsLaw_of_mem (.inr (cons_mem_char_mul h))
  | published b profile at_phase =>
    rw [at_phase] at shows
    have entered := turn_enterBurst h shows.2 rfl (by rw [shows.1]; nofun)
    unfold Run.statesToCome
    rw [at_phase]
    exact mem_burstsLaw_of_more entered
  | completed at_phase =>
    unfold Run.statesToCome at h ⊢
    rw [at_phase] at shows ⊢
    obtain rfl : w = [] := h
    refine Run.mem_of_turns ?_ rfl
    dsimp only at shows ⊢
    split at shows
    · rename_i stopped
      rw [shows, if_pos stopped]
      nofun
    · rename_i stopped
      rw [if_neg stopped]
      rcases shows with idle | recording
      · rw [idle]
        nofun
      · rw [recording]
        nofun
  | broke message may_break => exact absurd h (Set.notMem_empty w)

theorem exists_statesToCome {r : Run} (whole : ¬ r.phase.Broken) :
    ∃ w, w ∈ r.statesToCome.matches' := by
  unfold Run.statesToCome
  cases at_phase : r.phase with
  | creating => exact ⟨[.finished], .inl rfl⟩
  | awaitingBurst b => exact ⟨[.stopping, .stopped], .inl (cons_mem_char_mul rfl)⟩
  | starting b | awaitingSlot recording | capturing recording | closing recording interrupted
  | publishing b profile interrupted =>
    exact ⟨[.finished], mem_burstsLaw_of_mem (.inl rfl)⟩
  | completing => exact ⟨[_], rfl⟩
  | ended => exact ⟨[], rfl⟩
  | broken message => exact absurd ⟨message, at_phase⟩ whole

/-- The profiles that a run has published, and one for the burst that it is in. -/
def Run.entered (r : Run) : Nat := r.summary.profiles + r.phase.inBurst.toNat

theorem entered_of_kept {r r' : Run} (same : r'.entered = r.entered)
    (kept : r'.state = r.state ∨ r'.state ≠ .inBurst) :
    r'.entered = r.entered + (r.turn r').count .inBurst := by
  rw [same, Run.turn]
  split
  · rfl
  · rename_i other
    have none : [r'.state].count State.inBurst = 0 :=
      List.count_singleton.trans (if_neg (by simpa using kept.resolve_left other))
    rw [none]
    rfl

theorem entered_slotPhase {p : Params} {r : Run} {recording : Recording}
    (at_phase : r.phase = Run.slotPhase p recording) : r.entered = r.summary.profiles + 1 := by
  unfold Run.entered
  rw [at_phase]
  unfold Run.slotPhase
  split <;> rfl

theorem entered_enterBurst (p : Params) (r : Run) (b : Burst) :
    (r.enterBurst p b).entered = r.summary.profiles := by
  unfold Run.enterBurst
  split <;> rfl

theorem kept_enterBurst {p : Params} {r : Run} {b : Burst} (unstopped : r.summary.stopped = false) :
    (r.enterBurst p b).state = r.state ∨ (r.enterBurst p b).state ≠ .inBurst := by
  unfold Run.enterBurst
  split
  · refine .inr ?_
    dsimp only
    split <;> nofun
  · refine .inl ?_
    simp only [Run.conclude, unstopped, Bool.false_eq_true, ↓reduceIte]

-- The state turns to the one within a burst when a burst is entered, and not otherwise.
theorem entered_step {p : Params} {r r' : Run} {event : Event} (shows : r.Shows)
    (step : r.Step p event r') (whole : ¬ r'.phase.Broken) :
    r'.entered = r.entered + (r.turn r').count .inBurst := by
  have before : ∀ phase, r.phase = phase → r.entered = r.summary.profiles + phase.inBurst.toNat :=
    fun phase at_phase => by rw [Run.entered, at_phase]
  unfold Run.Shows at shows
  cases step with
  | available now at_phase =>
    rw [at_phase] at shows
    refine entered_of_kept ?_ (kept_enterBurst shows.2)
    rw [entered_enterBurst, before _ at_phase]
    rfl
  | unavailable now at_phase =>
    rw [at_phase] at shows
    refine entered_of_kept (before _ at_phase).symm (.inl ?_)
    simp only [Run.conclude, shows.2, Bool.false_eq_true, ↓reduceIte]
  | burstStopped b now at_phase => exact entered_of_kept (before _ at_phase).symm (.inr nofun)
  | burstDue b now at_phase due =>
    rw [at_phase] at shows
    have other : State.inBurst ≠ r.state := by
      rw [shows.1]
      split <;> nofun
    rw [before _ at_phase, Run.turn, if_neg other]
    rfl
  | started b now at_phase =>
    refine entered_of_kept ?_ (.inl rfl)
    rw [entered_slotPhase rfl, before _ at_phase]
    rfl
  | captured recording met result at_phase =>
    refine entered_of_kept ?_ (.inl rfl)
    rw [entered_slotPhase rfl, before _ at_phase]
    exact congrArg (· + 1) (afterCapture_keeps r.summary result).1
  | slotStopped recording now at_phase | slotDue recording now at_phase due
  | closed recording interrupted now at_phase =>
    exact entered_of_kept (before _ at_phase).symm (.inl rfl)
  | publishedLast b profile at_phase => exact entered_of_kept (before _ at_phase).symm (.inr nofun)
  | published b profile at_phase =>
    rw [at_phase] at shows
    refine entered_of_kept ?_ (kept_enterBurst shows.2)
    rw [entered_enterBurst, before _ at_phase]
    rfl
  | completed at_phase =>
    refine entered_of_kept (before _ at_phase).symm (.inr ?_)
    dsimp only
    split <;> nofun
  | broke message may_break => exact absurd ⟨message, rfl⟩ whole

end BurstProfiler.Schedule
