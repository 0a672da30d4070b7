import BurstProfiler.Proofs.Schedule.StateLaw

/-! The discipline of a run along its history. At every point its calls and the values of its
state begin words of their laws, and when it returns they are such words. A run that breaks off
has kept to them up to there. -/

set_option autoImplicit false

namespace BurstProfiler.Schedule

/-- The values that the state of a session's run takes along a history, one after another. -/
def Session.turns (s : Session) (store : PendingStore) : List Move → List State
  | [] => []
  | move :: rest =>
    match s.move? store move with
    | none => []
    | some (t, after) => s.run.turn t.run ++ t.turns after rest

/-- The values of the state along a history, the one at its beginning included. -/
def Session.stateWord (s : Session) (store : PendingStore) (moves : List Move) : List State :=
  s.run.state :: s.turns store moves

theorem Session.stateWord_concat {s t u : Session} {store mid after : PendingStore}
    {moves : List Move} {move : Move} (played : s.replay? store moves = some (u, mid))
    (moved : u.move? mid move = some (t, after)) :
    s.stateWord store (moves ++ [move]) = s.stateWord store moves ++ u.run.turn t.run := by
  suffices turns : s.turns store (moves ++ [move]) = s.turns store moves ++ u.run.turn t.run from
    congrArg (s.run.state :: ·) turns
  induction moves generalizing s store with
  | nil =>
    cases played
    simp only [List.nil_append, turns, moved, List.append_nil]
  | cons first rest ih =>
    unfold replay? at played
    split at played
    · cases played
    · rename_i v next stepped
      simp only [List.cons_append, turns, stepped, ih played, List.append_assoc]

/-- A history has kept to both laws so far, and may go on as a run that is at `r` may. -/
structure Lawful (p : Params) (sink : Sink) (store : PendingStore) (moves : List Move) (r : Run) :
    Prop where
  whole : ¬ r.phase.Broken
  calls : ∀ w ∈ r.phase.callsToCome.matches', callsEnded moves ++ w ∈ callLaw.matches'
  states : ∀ w ∈ r.statesToCome.matches',
    (Session.fresh p sink).stateWord store moves ++ w ∈ stateLaw.matches'
  entered : ((Session.fresh p sink).stateWord store moves).count .inBurst = r.entered

section Histories

variable {p : Params} {sink : Sink} {store mid after : PendingStore} {moves : List Move}
  {s t : Session}

theorem lawful_fresh : Lawful p sink store [] .fresh := by
  refine ⟨nofun, fun w h => ?_, fun w h => ?_, rfl⟩
  · rw [matches_callLaw]
    exact h
  · rw [matches_stateLaw]
    exact cons_mem_char_mul h

theorem Lawful.requestStop {r : Run} (h : Lawful p sink store moves r)
    (earlier : (Session.fresh p sink).replay? store moves = some (s, mid)) :
    Lawful p sink store (moves ++ [.requestStop]) r := by
  have calls : callsEnded (moves ++ [.requestStop]) = callsEnded moves :=
    (callsEnded_append _ _).trans (List.append_nil _)
  have states : (Session.fresh p sink).stateWord store (moves ++ [.requestStop]) =
      (Session.fresh p sink).stateWord store moves := by
    rw [Session.stateWord_concat earlier (t := s.requestStop) rfl, Run.turn]
    exact (congrArg _ (if_pos rfl)).trans (List.append_nil _)
  refine ⟨h.whole, ?_, ?_, ?_⟩
  · rw [calls]
    exact h.calls
  · rw [states]
    exact h.states
  · rw [states]
    exact h.entered

theorem Lawful.step {event : Event} (h : Lawful p sink store moves s.run) (shows : s.run.Shows)
    (earlier : (Session.fresh p sink).replay? store moves = some (s, mid))
    (moved : s.step? mid event = some (t, after)) (step : s.run.Step p event t.run) :
    ∃ r, (t.run.phase.Broken ∨ r = t.run) ∧
      Lawful p sink store (moves ++ [.event event]) r := by
  have calls : callsEnded (moves ++ [.event event]) = callsEnded moves ++ event.call?.toList := by
    rw [callsEnded_append, callsEnded_singleton]
  have told : s.move? mid (.event event) = some (t, after) := moved
  have states := Session.stateWord_concat earlier told
  by_cases broken : t.run.phase.Broken
  · -- What broke off ended no call and left the state as it was.
    obtain ⟨message, rfl, -, same⟩ := step.event_of_broken broken
    have stays : s.run.turn t.run = [] := by
      rw [same]
      exact if_pos rfl
    rw [stays, List.append_nil] at states
    refine ⟨s.run, .inl broken, h.whole, ?_, ?_, ?_⟩
    · rw [calls]
      exact fun w ahead => (List.append_nil (callsEnded moves)).symm ▸ h.calls w ahead
    · rw [states]
      exact h.states
    · rw [states]
      exact h.entered
  · refine ⟨t.run, .inr rfl, broken, fun w ahead => ?_, fun w ahead => ?_, ?_⟩
    · rw [calls, List.append_assoc]
      exact h.calls _ (callsToCome_step step ahead)
    · rw [states, List.append_assoc]
      exact h.states _ (statesToCome_step shows step ahead)
    · rw [states, List.count_append, h.entered]
      exact (entered_step shows step broken).symm

theorem lawful_replay? (played : (Session.fresh p sink).replay? store moves = some (t, after)) :
    t.run.Shows ∧ ∃ r, (t.run.phase.Broken ∨ r = t.run) ∧ Lawful p sink store moves r := by
  refine Session.history_induction (fun moves t => t.run.Shows ∧
    ∃ r, (t.run.phase.Broken ∨ r = t.run) ∧ Lawful p sink store moves r) ?_ ?_ ?_ played
  · exact ⟨⟨rfl, rfl⟩, _, .inr rfl, lawful_fresh⟩
  · rintro moves s mid earlier ⟨shows, r, reached, lawful⟩
    exact ⟨shows, r, reached, lawful.requestStop earlier⟩
  · rintro moves s mid event u next earlier moved step ⟨shows, r, reached, lawful⟩
    obtain rfl : r = s.run := reached.resolve_left step.not_broken
    exact ⟨shows.step step, lawful.step shows earlier moved step⟩

theorem getLast?_turn {r r' : Run} {states : List State}
    (last : states.getLast? = some r.state) :
    (states ++ r.turn r').getLast? = some r'.state := by
  unfold Run.turn
  split
  · rename_i same
    rw [List.append_nil, last, same]
  · exact List.getLast?_concat

theorem getLast?_stateWord
    (played : (Session.fresh p sink).replay? store moves = some (t, after)) :
    ((Session.fresh p sink).stateWord store moves).getLast? = some t.run.state := by
  refine Session.history_induction (fun moves t =>
    ((Session.fresh p sink).stateWord store moves).getLast? = some t.run.state) rfl ?_ ?_ played
  · intro moves s mid earlier last
    rw [Session.stateWord_concat earlier (t := s.requestStop) rfl]
    exact getLast?_turn last
  · intro moves s mid event u next earlier moved _ last
    have told : s.move? mid (.event event) = some (u, next) := moved
    rw [Session.stateWord_concat earlier told]
    exact getLast?_turn last

end Histories

/-- What a run keeps to, whatever it has come to. -/
structure Discipline (p : Params) (sink : Sink) (store : PendingStore) (moves : List Move)
    (t : Session) : Prop where
  /-- The calls so far begin a word of their law. -/
  calls : ∃ ahead, callsEnded moves ++ ahead ∈ callLaw.matches'
  states : ∃ ahead, (Session.fresh p sink).stateWord store moves ++ ahead ∈ stateLaw.matches'
  current : ((Session.fresh p sink).stateWord store moves).getLast? = some t.run.state
  /-- The calls for a burst are made while the state says so. -/
  inBurst : ∀ call ∈ [Action.starting, .sample, .stopped, .publish],
    t.run.phase.action? = some call → t.run.state = .inBurst
  /-- A terminal state is set behind the end of the sink's completion. -/
  terminal : t.run.state.isTerminal = true → .event .completed ∈ moves
  returned : ∀ s, t.run.result? = some s →
    callsEnded moves ∈ callLaw.matches' ∧
      (Session.fresh p sink).stateWord store moves ∈ stateLaw.matches' ∧
      ((Session.fresh p sink).stateWord store moves).count .inBurst = s.profiles ∧
      t.run.state = if s.stopped then .stopped else .finished

theorem Run.Shows.inBurst {r : Run} (shows : r.Shows) {call : Action}
    (sampling : call ∈ [Action.starting, .sample, .stopped, .publish])
    (at_call : r.phase.action? = some call) : r.state = .inBurst := by
  unfold Shows at shows
  cases at_phase : r.phase with
  | starting b | awaitingSlot recording | capturing recording | closing recording interrupted
  | publishing b profile interrupted =>
    rw [at_phase] at shows
    exact shows.1
  | creating | awaitingBurst b | completing =>
    rw [at_phase] at at_call
    cases at_call
    simp at sampling
  | ended | broken message =>
    rw [at_phase] at at_call
    cases at_call

theorem completed_of_returned {p : Params} {sink : Sink} {store after : PendingStore}
    {moves : List Move} {t : Session} {s : Summary}
    (played : (Session.fresh p sink).replay? store moves = some (t, after))
    (returned : t.run.result? = some s) : .event .completed ∈ moves := by
  have ended := (phase_of_result? returned).1
  have whole : ¬ t.run.phase.Broken := by
    rintro ⟨message, broken⟩
    cases ended.symm.trans broken
  have calls := calls_eq_callsBehind played whole
  rw [ended] at calls
  have last : .complete ∈ callsEnded moves := by
    rw [calls]
    exact List.mem_concat_self
  obtain ⟨move, member, call⟩ := List.mem_filterMap.1 last
  cases move with
  | requestStop => cases call
  | event event =>
    cases event with
    | completed => exact member
    | _ => cases call

theorem discipline_replay? {p : Params} {sink : Sink} {store after : PendingStore}
    {moves : List Move} {t : Session}
    (played : (Session.fresh p sink).replay? store moves = some (t, after)) :
    Discipline p sink store moves t := by
  obtain ⟨shows, r, reached, lawful⟩ := lawful_replay? played
  refine ⟨⟨_, lawful.calls _ (callsAhead_mem lawful.whole)⟩, ?_, getLast?_stateWord played,
    fun call sampling at_call => shows.inBurst sampling at_call, fun terminal => ?_,
    fun s returned => ?_⟩
  · obtain ⟨ahead, member⟩ := exists_statesToCome lawful.whole
    exact ⟨ahead, lawful.states ahead member⟩
  · rw [shows.isTerminal] at terminal
    obtain ⟨s, returned⟩ := Option.isSome_iff_exists.1 terminal
    exact completed_of_returned played returned
  · obtain ⟨ended, rfl⟩ := phase_of_result? returned
    have unbroken : ¬ t.run.phase.Broken := by
      rintro ⟨message, broken⟩
      cases ended.symm.trans broken
    obtain rfl := reached.resolve_left unbroken
    have calls := lawful.calls []
    have states := lawful.states []
    have entered := lawful.entered
    unfold Run.Shows at shows
    unfold Run.statesToCome at states
    unfold Run.entered at entered
    rw [ended] at calls states entered shows
    rw [List.append_nil] at calls states
    exact ⟨calls rfl, states rfl, entered, shows⟩

end BurstProfiler.Schedule
