import BurstProfiler.Proofs.Schedule.Actions

/-! What a stop leaves of a run. In each phase the calls that a stopped run still makes are fixed:
a call that is about to begin or has begun, the hook and the publication that close a burst, and
the end. Whenever the stop comes, a run has at most these left. -/

set_option autoImplicit false

namespace BurstProfiler.Schedule

def Action.isSampling : Action → Bool
  | .starting | .sample => true
  | _ => false

def Moment.publishes : Moment → Bool
  | .ends .published => true
  | _ => false

/-- The calls that a run has before it in a phase once a stop is requested, that of the phase
first. -/
def Phase.callsAhead : Phase → List Action
  | .creating => [.create, .complete]
  | .starting _ => [.starting, .stopped, .publish, .complete]
  | .capturing _ => [.sample, .stopped, .publish, .complete]
  | .awaitingSlot _ | .closing _ _ => [.stopped, .publish, .complete]
  | .publishing _ _ _ => [.publish, .complete]
  | .awaitingBurst _ | .completing => [.complete]
  | .ended | .broken _ => []

def Phase.callsBeyond (phase : Phase) : List Action :=
  phase.callsAhead.drop phase.call?.toList.length

theorem callsAhead_eq (phase : Phase) :
    phase.callsAhead = phase.call?.toList ++ phase.callsBeyond := by
  cases phase <;> rfl

-- A wait that ends under a stop request ends by it, so no transition of a stopped run adds a call.
theorem callsAhead_step {p : Params} {r r' : Run} {event : Event} (step : r.Step p event r')
    (flag : ∀ stopped now, event = .awoke stopped now → stopped = true) :
    r'.phase.callsAhead <+: r.phase.callsBeyond := by
  have enter : ∀ (q : Run) (b : Burst), (q.enterBurst p b).phase.callsAhead = [.complete] := by
    intro q b
    unfold Run.enterBurst
    split <;> rfl
  have slot : ∀ q : Recording,
      (Run.slotPhase p q).callsAhead = [.stopped, .publish, .complete] := by
    intro q
    unfold Run.slotPhase
    split <;> rfl
  cases step with
  | available now at_phase | published b profile at_phase =>
    rw [at_phase, enter]
    exact List.prefix_rfl
  | started b now at_phase | captured recording met result at_phase =>
    rw [at_phase, slot]
    exact List.prefix_rfl
  | burstDue b now at_phase due | slotDue recording now at_phase due => cases flag false now rfl
  | broke message may_break => exact List.nil_prefix
  | unavailable now at_phase | burstStopped b now at_phase | slotStopped recording now at_phase
  | closed recording interrupted now at_phase | publishedLast b profile at_phase
  | completed at_phase =>
    rw [at_phase]
    exact List.prefix_rfl

theorem Session.agrees_of_stop {s : Session} {event : Event} (requested : s.stopRequested = true)
    (agrees : s.agrees event = true) :
    ∀ stopped now, event = .awoke stopped now → stopped = true := by
  rintro stopped now rfl
  rw [← requested]
  exact beq_iff_eq.1 agrees

theorem Session.step?_stopRequested {s t : Session} {store after : PendingStore} {event : Event}
    (stepped : s.step? store event = some (t, after)) : t.stopRequested = s.stopRequested := by
  obtain ⟨-, run, -, rfl, -⟩ := Session.step_of_step? stepped
  exact Session.deliver_stopRequested s store event

theorem callsEnded_prefix {s t : Session} {store after : PendingStore} {moves : List Move}
    (requested : s.stopRequested = true) (played : s.replay? store moves = some (t, after)) :
    callsEnded moves <+: s.run.phase.callsAhead := by
  induction moves generalizing s store with
  | nil => exact List.nil_prefix
  | cons move rest ih =>
    unfold Session.replay? at played
    split at played
    · cases played
    · rename_i u mid moved
      cases move with
      | requestStop =>
        cases moved
        exact ih (s := s.requestStop) rfl played
      | event event =>
        obtain ⟨agrees, run, step, same, -⟩ := Session.step_of_step? moved
        have still : u.stopRequested = true :=
          (Session.step?_stopRequested moved).trans requested
        have later := ih still played
        rw [callsEnded_cons, callsAhead_eq]
        rw [same] at later
        rcases step.call? with ended | ⟨nothing, message, broken⟩
        · rw [ended, List.prefix_append_right_inj]
          exact later.trans (callsAhead_step step (Session.agrees_of_stop requested agrees))
        · -- A run that has broken off makes no more calls.
          rw [broken] at later
          rw [nothing, List.prefix_nil.1 later]
          exact List.nil_prefix

theorem count_callsAhead (phase : Phase) :
    phase.callsAhead.countP Action.isSampling ≤ 1 ∧ phase.callsAhead.count .publish ≤ 1 := by
  cases phase <;> simp +decide only [Phase.callsAhead]

/-- The phases that a run may be in without having recorded a burst. -/
def Phase.Early : Phase → Prop
  | .creating | .awaitingBurst _ | .completing | .ended | .broken _ => True
  | _ => False

/-- The calls of a run that records no burst. -/
def Action.IsFrame (call : Action) : Prop := call = .create ∨ call = .complete

theorem Phase.Early.callsAhead {phase : Phase} (early : phase.Early) :
    ∀ call ∈ phase.callsAhead, call.IsFrame := by
  cases phase with
  | creating | completing | awaitingBurst b | ended | broken message =>
    simp [Phase.callsAhead, Action.IsFrame]
  | _ => exact early.elim

-- Nothing but the end of a wait leads on to a burst.
theorem Run.Step.early {p : Params} {r r' : Run} {event : Event} (step : r.Step p event r')
    (early : r.phase.Early) (asleep : ∀ stopped now, event ≠ .awoke stopped now) :
    r'.phase.Early ∧ ∀ call, event.call? = some call → call.IsFrame := by
  cases step with
  | available now at_phase =>
    refine ⟨?_, fun call same => .inl (Option.some.inj same).symm⟩
    unfold Run.enterBurst
    split <;> trivial
  | unavailable now at_phase => exact ⟨trivial, fun call same => .inl (Option.some.inj same).symm⟩
  | completed at_phase => exact ⟨trivial, fun call same => .inr (Option.some.inj same).symm⟩
  | broke message may_break => exact ⟨trivial, nofun⟩
  | burstStopped b now at_phase | slotStopped recording now at_phase =>
    exact absurd rfl (asleep true now)
  | burstDue b now at_phase due | slotDue recording now at_phase due =>
    exact absurd rfl (asleep false now)
  | started b now at_phase | captured recording met result at_phase
  | closed recording interrupted now at_phase | publishedLast b profile at_phase
  | published b profile at_phase =>
    rw [at_phase] at early
    exact early.elim

theorem countP_publishes (moments : List Moment) :
    moments.countP Moment.publishes =
      (callsEnded (movesOf moments)).count .publish := by
  induction moments with
  | nil => rfl
  | cons moment rest ih =>
    rw [List.countP_cons, ih]
    cases moment with
    | begins action => rfl
    | requestStop => rfl
    | ends event =>
      have one : movesOf (.ends event :: rest) = .event event :: movesOf rest := rfl
      rw [one, callsEnded_cons, List.count_append, Nat.add_comm]
      congr 1
      cases event <;> rfl

namespace Course

def callsAhead (c : Course) : List Action :=
  if c.underway then c.phase.callsBeyond else c.phase.callsAhead

theorem callsBegun_prefix {c d : Course} {moments : List Moment}
    (requested : c.session.stopRequested = true) (played : c.replay? moments = some d) :
    callsBegun moments <+: c.callsAhead := by
  induction moments generalizing c with
  | nil => exact List.nil_prefix
  | cons moment rest ih =>
    obtain ⟨u, moved, onward⟩ := Option.bind_eq_some_iff.1 played
    cases moment with
    | requestStop =>
      cases moved
      exact ih (c := { c with session := c.session.requestStop }) rfl onward
    | begins action =>
      obtain ⟨at_phase, idle, rfl⟩ := step?_begins moved
      have later : callsBegun rest <+: c.phase.callsBeyond :=
        ih (c := { c with underway := true }) requested onward
      have one : callsBegun (.begins action :: rest) = c.phase.call?.toList ++ callsBegun rest := by
        unfold Phase.call?
        rw [at_phase]
        cases action <;> rfl
      unfold callsAhead
      rw [idle, one]
      exact callsAhead_eq c.phase ▸ (List.prefix_append_right_inj _).2 later
    | ends event =>
      obtain ⟨busy, idle, stepped⟩ := step?_ends moved
      obtain ⟨agrees, run, step, same, -⟩ := Session.step_of_step? stepped
      have still := (Session.step?_stopRequested stepped).trans requested
      have later := ih still onward
      unfold callsAhead phase at later ⊢
      rw [idle, same] at later
      rw [busy]
      exact later.trans (callsAhead_step step (Session.agrees_of_stop requested agrees))

structure Early (c : Course) : Prop where
  phase : c.phase.Early
  unbegun : ∀ b, c.phase = .awaitingBurst b → c.underway = false

-- Until a run waits for its first burst it creates the capturer or completes, and no more.
theorem Early.step {c d : Course} {moment : Moment} (early : c.Early)
    (moved : c.step? moment = some d) (unbegun : moment ≠ .begins .burstWait) :
    d.Early ∧ (∀ call, moment.callBegun? = some call → call.IsFrame) ∧
      moment.publishes = false := by
  cases moment with
  | requestStop =>
    cases moved
    exact ⟨⟨early.phase, early.unbegun⟩, nofun, rfl⟩
  | begins action =>
    obtain ⟨at_phase, idle, rfl⟩ := step?_begins moved
    obtain ⟨here, -⟩ := early
    change Phase.Early c.phase at here
    have frame : action.IsFrame ∧ ∀ b, c.phase ≠ .awaitingBurst b := by
      revert here at_phase
      cases c.phase with
      | creating =>
        rintro ⟨⟩ -
        exact ⟨.inl rfl, nofun⟩
      | completing =>
        rintro ⟨⟩ -
        exact ⟨.inr rfl, nofun⟩
      | awaitingBurst b =>
        rintro ⟨⟩ -
        exact absurd rfl unbegun
      | ended | broken message => nofun
      | _ => exact fun _ contrary => contrary.elim
    refine ⟨⟨here, fun b same => absurd same (frame.2 b)⟩, ?_, rfl⟩
    intro call begun
    simp only [Moment.callBegun?] at begun
    split at begun
    · cases begun
      exact frame.1
    · cases begun
  | ends event =>
    obtain ⟨busy, idle, stepped⟩ := step?_ends moved
    obtain ⟨-, run, step, same, -⟩ := Session.step_of_step? stepped
    have asleep : ∀ stopped now, event ≠ .awoke stopped now := by
      rintro stopped now rfl
      have here : c.session.run.phase.Early := early.phase
      cases step with
      | burstStopped b now at_phase | burstDue b now at_phase due =>
        cases busy.symm.trans (early.unbegun b at_phase)
      | slotStopped recording now at_phase | slotDue recording now at_phase due =>
        rw [at_phase] at here
        exact here
    obtain ⟨here, frame⟩ := step.early early.phase asleep
    have there : d.phase = run.phase := congrArg (fun t => t.run.phase) same
    refine ⟨⟨there ▸ here, fun _ _ => idle⟩, nofun, ?_⟩
    · cases event with
      | published => exact absurd (frame .publish rfl) (by simp [Action.IsFrame])
      | _ => rfl

theorem Early.replay? {c d : Course} {moments : List Moment} (early : c.Early)
    (played : c.replay? moments = some d) (unbegun : Moment.begins .burstWait ∉ moments) :
    d.Early ∧ (∀ call ∈ callsBegun moments, call.IsFrame) ∧
      moments.countP Moment.publishes = 0 := by
  induction moments using List.reverseRecOn generalizing d with
  | nil =>
    cases played
    exact ⟨early, List.forall_mem_nil _, rfl⟩
  | append_singleton moments moment ih =>
    obtain ⟨u, earlier, moved⟩ := replay?_concat played
    rw [List.mem_append, List.mem_singleton, not_or] at unbegun
    obtain ⟨early', calls, publications⟩ := ih earlier unbegun.1
    obtain ⟨early'', call, silent⟩ := early'.step moved (Ne.symm unbegun.2)
    refine ⟨early'', ?_, ?_⟩
    · intro action member
      unfold callsBegun at member
      rw [List.filterMap_append, List.mem_append] at member
      rcases member with before | last
      · exact calls action before
      · obtain ⟨m, only, begun⟩ := List.mem_filterMap.1 last
        obtain rfl := List.mem_singleton.1 only
        exact call action begun
    · rw [List.countP_append, publications, List.countP_singleton, silent]
      rfl

end Course

/-- A run that was told to stop can always go on up to its end. -/
theorem Session.exists_step_of_stop {s : Session} (store : PendingStore)
    (requested : s.stopRequested = true) (going : s.run.isOver = false) :
    ∃ event t after, s.step? store event = some (t, after) ∧ ∀ message, event ≠ .broke message := by
  obtain ⟨params, ⟨phase, state, summary⟩, sink, flag, delivered⟩ := s
  cases requested
  cases phase with
  | creating => exact ⟨.created false .origin, _, _, rfl, nofun⟩
  | awaitingBurst b => exact ⟨.awoke true .origin, _, _, rfl, nofun⟩
  | starting b => exact ⟨.started .origin, _, _, rfl, nofun⟩
  | awaitingSlot recording => exact ⟨.awoke true .origin, _, _, rfl, nofun⟩
  | capturing recording => exact ⟨.captured [] (.ok []), _, _, rfl, nofun⟩
  | closing recording interrupted => exact ⟨.closed .origin, _, _, rfl, nofun⟩
  | publishing b profile interrupted =>
    cases interrupted <;> exact ⟨.published, _, _, rfl, nofun⟩
  | completing => exact ⟨.completed, _, _, rfl, nofun⟩
  | ended | broken message => cases going

theorem result?_of_isOver {r : Run} (finished : r.isOver = true) (whole : ¬ r.phase.Broken) :
    r.result?.isSome := by
  unfold Run.isOver at finished
  unfold Run.result?
  cases at_phase : r.phase with
  | ended => rfl
  | broken message => exact absurd ⟨message, at_phase⟩ whole
  | _ =>
    rw [at_phase] at finished
    cases finished

theorem Course.stopRequested_replay? {c d : Course} {moments : List Moment}
    (requested : c.session.stopRequested = true) (played : c.replay? moments = some d) :
    d.session.stopRequested = true := by
  induction moments using List.reverseRecOn generalizing d with
  | nil =>
    cases played
    exact requested
  | append_singleton moments moment ih =>
    obtain ⟨u, earlier, moved⟩ := replay?_concat played
    have before := ih earlier
    cases moment with
    | begins action =>
      obtain ⟨-, -, rfl⟩ := step?_begins moved
      exact before
    | ends event => exact (Session.step?_stopRequested (step?_ends moved).2.2).trans before
    | requestStop =>
      cases moved
      rfl

theorem Course.isOver_of_stuck {c : Course} (requested : c.session.stopRequested = true)
    (stuck : ∀ moment, moment ≠ .requestStop → c.step? moment = none) :
    c.session.run.isOver = true := by
  by_contra unfinished
  have going : c.session.run.isOver = false := Bool.eq_false_iff.2 unfinished
  cases busy : c.underway with
  | true =>
    obtain ⟨event, t, after, stepped, -⟩ := Session.exists_step_of_stop c.store requested going
    have contrary := stuck (.ends event) Moment.noConfusion
    simp only [step?, busy, stepped, ↓reduceIte, Option.map_some] at contrary
    cases contrary
  | false =>
    have some_action : ∃ action, c.phase.action? = some action := by
      unfold Run.isOver at going
      unfold phase
      cases here : c.session.run.phase with
      | ended | broken message =>
        rw [here] at going
        cases going
      | _ => exact ⟨_, rfl⟩
    obtain ⟨action, at_phase⟩ := some_action
    have contrary := stuck (.begins action) Moment.noConfusion
    simp only [step?, at_phase, busy, and_self, ↓reduceIte] at contrary
    cases contrary

/-- What a stop leaves of a run, told by the moments before and behind it and the journal of all.
At most one hook before a burst or capture begins, and at most one profile is published. When the
run has returned, its calls are those of its bursts: each of them, the interrupted one as well,
was closed by one hook and published with every capture made in it. A stop before the wait for the
first burst leaves no hook to run and nothing to publish. And only the capturer or the callback
can keep a stopped run from returning. -/
structure CutOff (p : Params) (sink : Sink) (store : PendingStore) (first rest : List Moment)
    (j : Journal) (c : Course) : Prop where
  sampling : (callsBegun rest).countP Action.isSampling ≤ 1
  publications : rest.countP Moment.publishes ≤ 1
  closed : c.session.run.result?.isSome →
    callsBegun (first ++ .requestStop :: rest) = .create :: j.burstCalls ++ [.complete] ∧
      j.bursts.flatMap BurstEntry.captures = j.captures ∧
      c.session.HandedOver sink store c.store (j.bursts.map (BurstEntry.profile p))
  early : .begins .burstWait ∉ first →
    (∀ call ∈ callsBegun (first ++ .requestStop :: rest), call = .create ∨ call = .complete) ∧
      (first ++ .requestStop :: rest).countP Moment.publishes = 0
  returns : (∀ moment, moment ≠ .requestStop → c.step? moment = none) →
    ¬ c.phase.Broken → c.session.run.result?.isSome

theorem Run.Fits.captures_of_ended {p : Params} {j : Journal} {r : Run} (h : r.Fits p j)
    (ended : r.phase = .ended) : j.bursts.flatMap BurstEntry.captures = j.captures := by
  have phase := h.phase
  rw [ended] at phase
  have captures := h.captures
  rw [Journal.openCaptures, phase.1] at captures
  exact (captures.trans (List.append_nil _)).symm

-- A run that has returned has no call underway, and all of its captures are in its bursts.
theorem Course.closed_of_returned {p : Params} {sink : Sink} {store : PendingStore}
    {moments : List Moment} {c : Course}
    (played : (Course.fresh p sink store).replay? moments = some c)
    (returned : c.session.run.result?.isSome) {j : Journal}
    (journal : j = .ofMoves (movesOf moments)) :
    callsBegun moments = .create :: j.burstCalls ++ [.complete] ∧
      j.bursts.flatMap BurstEntry.captures = j.captures ∧
      c.session.HandedOver sink store c.store (j.bursts.map (BurstEntry.profile p)) := by
  obtain ⟨s, returned⟩ := Option.isSome_iff_exists.1 returned
  have ended := (phase_of_result? returned).1
  have session := replay?_session played
  have fits := Session.fits_replay? session
  rw [← journal] at fits
  have whole : ¬ c.phase.Broken := by
    rintro ⟨message, broken⟩
    cases ended.symm.trans broken
  refine ⟨?_, fits.run.captures_of_ended ended, fits.handedOver returned⟩
  have nothing : c.pending = [] := by
    unfold pending phase
    rw [ended]
    exact ite_self _
  rw [callsBegun_eq rfl played whole, nothing, List.append_nil,
    calls_eq_callsBehind session whole, ← journal, ended]
  rfl

/-- **A stop cuts a run off.** Whatever the parameters, the capturer and the sink, and wherever
between or within the actions of a run a stop falls: the run then does no more than to finish the
hook or the capture it is about to enter, close the burst it is in and publish its profile. -/
theorem stop_cuts_off {p : Params} {sink : Sink} {store : PendingStore} {first rest : List Moment}
    {c : Course}
    (played : (Course.fresh p sink store).replay? (first ++ .requestStop :: rest) = some c) :
    CutOff p sink store first rest (.ofMoves (movesOf (first ++ .requestStop :: rest))) c := by
  have split := played
  rw [Course.replay?_append, Option.bind_eq_some_iff] at split
  obtain ⟨b, before, behind⟩ := split
  let stopped : Course := { b with session := b.session.requestStop }
  have onward : stopped.replay? rest = some c := behind
  have begun : callsBegun rest <+: stopped.callsAhead := Course.callsBegun_prefix rfl onward
  have ended : callsEnded (movesOf rest) <+: b.phase.callsAhead :=
    callsEnded_prefix (s := stopped.session) rfl (Course.replay?_session onward)
  have calls : callsBegun (first ++ .requestStop :: rest) = callsBegun first ++ callsBegun rest :=
    List.filterMap_append
  have ahead : stopped.callsAhead.Sublist b.phase.callsAhead := by
    unfold Course.callsAhead
    split
    · exact List.drop_sublist _ _
    · exact List.Sublist.refl _
  refine ⟨?_, ?_, fun returned => Course.closed_of_returned played returned rfl, ?_, ?_⟩
  · exact Nat.le_trans (begun.sublist.trans ahead).countP_le (count_callsAhead b.phase).1
  · rw [countP_publishes]
    exact Nat.le_trans ended.sublist.countP_le (count_callsAhead b.phase).2
  · intro unbegun
    obtain ⟨early, frame, silent⟩ :=
      Course.Early.replay? (c := .fresh p sink store) ⟨trivial, fun _ _ => rfl⟩ before unbegun
    have here : b.phase.Early := early.phase
    refine ⟨?_, ?_⟩
    · intro call member
      rw [calls, List.mem_append] at member
      rcases member with member | member
      · exact frame call member
      · exact here.callsAhead call (ahead.subset (begun.subset member))
    · have none_later : (callsEnded (movesOf rest)).count .publish = 0 := by
        rw [List.count_eq_zero]
        intro member
        exact absurd (here.callsAhead _ (ended.subset member)) (by simp [Action.IsFrame])
      rw [List.countP_append, silent, List.countP_cons, countP_publishes, none_later]
      rfl
  · intro stuck whole
    exact result?_of_isOver
      (Course.isOver_of_stuck (Course.stopRequested_replay? rfl onward) stuck) whole

def slotMoments (first : Nat) : Nat → List Moment
  | 0 => []
  | n + 1 =>
    [.begins .slotWait, .ends (.awoke false .origin), .begins .sample,
      .ends (.captured (briefScript first).met (briefScript first).result)] ++
      slotMoments (first + 1) n

def momentsToLastSlot : List Moment :=
  [.begins .create, .ends (.created true .origin), .begins .burstWait,
    .ends (.awoke false .origin), .begins .starting, .ends (.started .origin)] ++
    slotMoments 0 2 ++ [.begins .slotWait, .ends (.awoke false .origin)]

def momentsFromLastSlot : List Moment :=
  [.begins .sample, .requestStop,
    .ends (.captured (briefScript 2).met (briefScript 2).result), .begins .stopped,
    .ends (.closed .origin), .begins .publish, .ends .published, .begins .burstWait,
    .ends (.awoke true .origin), .begins .complete, .ends .completed]

theorem stop_cuts_off_before_capture :
    ∃ c, (Course.fresh briefParams .pending .empty).replay?
        (momentsToLastSlot ++ .requestStop :: momentsFromLastSlot) = some c ∧
      c.session.run.result? = some ⟨1, 2, 1, 1, true, false⟩ ∧
      CutOff briefParams .pending .empty momentsToLastSlot momentsFromLastSlot
        (.ofMoves (movesOf (momentsToLastSlot ++ .requestStop :: momentsFromLastSlot))) c :=
  ⟨_, rfl, rfl, stop_cuts_off rfl⟩

end BurstProfiler.Schedule
