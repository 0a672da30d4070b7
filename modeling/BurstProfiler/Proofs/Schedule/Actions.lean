import BurstProfiler.Proofs.Schedule.Delivery
import Mathlib.Data.List.Induction

/-! The actions of a run, each of which begins and comes to its end; anybody may request a stop
before it, within it and behind it. The calls that a run makes, which are its actions other than
waits, are told by the bursts of its journal. -/

set_option autoImplicit false

namespace BurstProfiler.Schedule

inductive Action where
  | create
  | burstWait
  | starting
  | slotWait
  | sample
  | stopped
  | publish
  | complete
  deriving DecidableEq, Repr

def Action.isCall : Action → Bool
  | .burstWait | .slotWait => false
  | _ => true

def Phase.action? : Phase → Option Action
  | .creating => some .create
  | .awaitingBurst _ => some .burstWait
  | .starting _ => some .starting
  | .awaitingSlot _ => some .slotWait
  | .capturing _ => some .sample
  | .closing _ _ => some .stopped
  | .publishing _ _ _ => some .publish
  | .completing => some .complete
  | .ended | .broken _ => none

def Phase.call? (phase : Phase) : Option Action := phase.action?.filter Action.isCall

/-- The call that comes to its end with an event. -/
def Event.call? : Event → Option Action
  | .created _ _ => some .create
  | .started _ => some .starting
  | .captured _ _ => some .sample
  | .closed _ => some .stopped
  | .published => some .publish
  | .completed => some .complete
  | .awoke _ _ | .broke _ => none

def Move.call? : Move → Option Action
  | .event e => e.call?
  | .requestStop => none

def callsEnded (moves : List Move) : List Action := moves.filterMap Move.call?

theorem callsEnded_singleton (event : Event) : callsEnded [.event event] = event.call?.toList := by
  cases event <;> rfl

theorem callsEnded_append (first second : List Move) :
    callsEnded (first ++ second) = callsEnded first ++ callsEnded second :=
  List.filterMap_append

theorem callsEnded_cons (event : Event) (rest : List Move) :
    callsEnded (.event event :: rest) = event.call?.toList ++ callsEnded rest := by
  rw [← callsEnded_singleton, ← callsEnded_append, List.singleton_append]

inductive Moment where
  | begins (action : Action)
  | ends (event : Event)
  | requestStop

def Moment.move? : Moment → Option Move
  | .begins _ => none
  | .ends event => some (.event event)
  | .requestStop => some .requestStop

def Moment.callBegun? : Moment → Option Action
  | .begins action => if action.isCall then some action else none
  | _ => none

/-- A session with what surrounds it, and whether the action of its phase has begun. -/
structure Course where
  session : Session
  store : PendingStore
  underway : Bool

namespace Course

def fresh (p : Params) (sink : Sink) (store : PendingStore) : Course :=
  ⟨.fresh p sink, store, false⟩

def phase (c : Course) : Phase := c.session.run.phase

def step? (c : Course) : Moment → Option Course
  | .begins action =>
    if c.phase.action? = some action ∧ c.underway = false then some { c with underway := true }
    else none
  | .ends event =>
    if c.underway then (c.session.step? c.store event).map (fun r => ⟨r.1, r.2, false⟩) else none
  | .requestStop => some { c with session := c.session.requestStop }

def replay? (c : Course) : List Moment → Option Course
  | [] => some c
  | moment :: rest => (c.step? moment).bind (fun d => d.replay? rest)

theorem replay?_append (c : Course) (first second : List Moment) :
    c.replay? (first ++ second) = (c.replay? first).bind (fun d => d.replay? second) := by
  induction first generalizing c with
  | nil => rfl
  | cons moment rest ih =>
    simp only [List.cons_append, replay?, Option.bind_assoc]
    exact Option.bind_congr (fun d _ => ih d)

end Course

def callsBegun (moments : List Moment) : List Action := moments.filterMap Moment.callBegun?

def movesOf (moments : List Moment) : List Move := moments.filterMap Moment.move?

/-- The calls for a burst: the hook before it, its captures, the hook behind it and the
publication. -/
def BurstEntry.calls (e : BurstEntry) : List Action :=
  .starting :: List.replicate e.captures.length .sample ++ [.stopped, .publish]

def Journal.burstCalls (j : Journal) : List Action := j.bursts.flatMap BurstEntry.calls

/-- The calls that a run has behind it in a phase, unless it broke off. -/
def Phase.callsBehind (j : Journal) : Phase → List Action
  | .creating | .broken _ => []
  | .awaitingBurst _ | .starting _ | .completing => .create :: j.burstCalls
  | .awaitingSlot _ | .capturing _ | .closing _ _ =>
    .create :: j.burstCalls ++ .starting :: List.replicate j.openCaptures.length .sample
  -- All that belongs to the last burst but its publication.
  | .publishing _ _ _ => (.create :: j.burstCalls).dropLast
  | .ended => .create :: j.burstCalls ++ [.complete]

def Phase.Broken (phase : Phase) : Prop := ∃ message, phase = .broken message

theorem Run.Step.not_broken {p : Params} {r r' : Run} {event : Event} (step : r.Step p event r') :
    ¬ r.phase.Broken := by
  rintro ⟨message, broken⟩
  cases step with
  | broke _ may_break =>
    rw [broken] at may_break
    exact may_break
  | burstDue _ _ at_phase _ | slotDue _ _ at_phase _ =>
    rw [broken] at at_phase
    cases at_phase
  | _ =>
    rename_i at_phase
    rw [broken] at at_phase
    cases at_phase

-- A run breaks off by nothing but what its hooks, its captures or its callback do.
theorem Run.Step.event_of_broken {p : Params} {r r' : Run} {event : Event}
    (step : r.Step p event r') (broken : r'.phase.Broken) :
    ∃ message, event = .broke message ∧ r.phase.MayBreak ∧
      r' = { r with phase := .broken message } := by
  obtain ⟨message, broken⟩ := broken
  cases step with
  | broke message may_break => exact ⟨message, rfl, may_break, rfl⟩
  | available now at_phase | published b profile at_phase =>
    unfold Run.enterBurst at broken
    split at broken <;> cases broken
  | started b now at_phase | captured recording met result at_phase =>
    simp only [Run.slotPhase] at broken
    split at broken <;> cases broken
  | _ => cases broken

theorem Run.Step.call? {p : Params} {r r' : Run} {event : Event} (step : r.Step p event r') :
    event.call? = r.phase.call? ∨ event.call? = none ∧ r'.phase.Broken := by
  cases step with
  | broke message _ => exact .inr ⟨rfl, message, rfl⟩
  | burstDue _ _ at_phase _ | slotDue _ _ at_phase _ =>
    rw [at_phase]
    exact .inl rfl
  | _ =>
    rename_i at_phase
    rw [at_phase]
    exact .inl rfl

theorem burstCalls_concat {j : Journal} {earlier : List BurstEntry} {e : BurstEntry}
    (bursts : j.bursts = earlier ++ [e]) :
    (Action.create :: j.burstCalls).dropLast ++ [.publish] = .create :: j.burstCalls := by
  have last : Action.create :: j.burstCalls = (.create :: earlier.flatMap BurstEntry.calls ++
      .starting :: List.replicate e.captures.length .sample ++ [.stopped]) ++ [.publish] := by
    rw [Journal.burstCalls, bursts, List.flatMap_append, List.flatMap_singleton, BurstEntry.calls]
    simp only [List.append_assoc, List.cons_append, List.nil_append]
  rw [last, List.dropLast_concat]

theorem burstCalls_closed {p : Params} {j : Journal} {r : Recording} (h : Records p j r)
    (now : Instant) :
    (j.note (.event (.closed now))).burstCalls =
      j.burstCalls ++ .starting :: List.replicate j.openCaptures.length .sample ++
        [.stopped, .publish] := by
  unfold Journal.burstCalls
  rw [bursts_closed h now, List.flatMap_append, List.flatMap_singleton, List.append_assoc]
  rfl

-- The calls behind a run after a transition: one more if the transition ended one.
theorem callsBehind_step {p : Params} {j : Journal} {r r' : Run} {event : Event}
    (h : r.Fits p j) (step : r.Step p event r') (whole : ¬ r'.phase.Broken) :
    r'.phase.callsBehind (j.note (.event event)) =
      r.phase.callsBehind j ++ event.call?.toList := by
  have fits := h.phase
  have enter : ∀ (q : Run) (b : Burst) (k : Journal),
      (q.enterBurst p b).phase.callsBehind k = .create :: k.burstCalls := by
    intro q b k
    unfold Run.enterBurst
    split <;> rfl
  have slot : ∀ (q : Recording) (k : Journal), (Run.slotPhase p q).callsBehind k =
      .create :: k.burstCalls ++ .starting :: List.replicate k.openCaptures.length .sample := by
    intro q k
    unfold Run.slotPhase
    split <;> rfl
  cases step with
  | available now at_phase =>
    rw [at_phase] at fits ⊢
    rw [enter]
    have none_yet : j.burstCalls = [] := by rw [Journal.burstCalls, fits.2.2.1]; rfl
    exact congrArg (Action.create :: ·) none_yet
  | unavailable now at_phase =>
    rw [at_phase] at fits ⊢
    have none_yet : j.burstCalls = [] := by rw [Journal.burstCalls, fits.2.2.1]; rfl
    exact congrArg (Action.create :: ·) none_yet
  | burstStopped b now at_phase | burstDue b now at_phase due | slotStopped b now at_phase
  | slotDue b now at_phase due =>
    rw [at_phase]
    exact (List.append_nil _).symm
  | started b now at_phase =>
    rw [at_phase, slot]
    rfl
  | captured recording met result at_phase =>
    rw [at_phase] at fits ⊢
    rw [slot, openCaptures_captured fits.2.1, List.length_append, List.length_singleton,
      List.replicate_succ', Phase.callsBehind]
    simp only [List.append_assoc, List.cons_append]
    rfl
  | closed recording interrupted now at_phase =>
    rw [at_phase] at fits ⊢
    have all : Action.create :: (j.note (.event (.closed now))).burstCalls =
        (.create :: j.burstCalls ++ .starting :: List.replicate j.openCaptures.length .sample ++
          [.stopped]) ++ [.publish] := by
      rw [burstCalls_closed fits.2.1]
      simp only [List.append_assoc, List.cons_append, List.nil_append]
    simp only [Phase.callsBehind]
    rw [all, List.dropLast_concat]
    rfl
  | publishedLast b profile at_phase =>
    rw [at_phase] at fits ⊢
    obtain ⟨earlier, e, bursts, -⟩ := fits
    exact (burstCalls_concat bursts).symm
  | published b profile at_phase =>
    rw [at_phase] at fits ⊢
    obtain ⟨earlier, e, bursts, -⟩ := fits
    rw [enter]
    exact (burstCalls_concat bursts).symm
  | completed at_phase =>
    rw [at_phase]
    rfl
  | broke message at_phase => exact absurd ⟨message, rfl⟩ whole

theorem Session.replay?_concat {s t : Session} {store after : PendingStore} {moves : List Move}
    {move : Move} (played : s.replay? store (moves ++ [move]) = some (t, after)) :
    ∃ u mid, s.replay? store moves = some (u, mid) ∧ u.move? mid move = some (t, after) := by
  rw [Session.replay?_append, Option.bind_eq_some_iff] at played
  obtain ⟨⟨u, mid⟩, earlier, last⟩ := played
  refine ⟨u, mid, earlier, ?_⟩
  unfold Session.replay? at last
  split at last
  · cases last
  · rename_i moved
    cases last
    exact moved

-- What holds at first and is kept by every transition and every request to stop holds behind every
-- history. The induction is on the history from its end, so a step knows the history before it.
theorem Session.history_induction {p : Params} {sink : Sink} {store after : PendingStore}
    {moves : List Move} {t : Session} (holds : List Move → Session → Prop)
    (first : holds [] (.fresh p sink))
    (asked : ∀ moves s mid, (Session.fresh p sink).replay? store moves = some (s, mid) →
      holds moves s → holds (moves ++ [.requestStop]) s.requestStop)
    (stepped : ∀ moves s mid event u next,
      (Session.fresh p sink).replay? store moves = some (s, mid) →
      s.step? mid event = some (u, next) → s.run.Step p event u.run →
      holds moves s → holds (moves ++ [.event event]) u)
    (played : (Session.fresh p sink).replay? store moves = some (t, after)) : holds moves t := by
  induction moves using List.reverseRecOn generalizing t after with
  | nil =>
    cases played
    exact first
  | append_singleton moves move ih =>
    obtain ⟨u, mid, earlier, moved⟩ := replay?_concat played
    cases move with
    | requestStop =>
      cases moved
      exact asked moves u _ earlier (ih earlier)
    | event event =>
      obtain ⟨-, run, step, same, -⟩ := step_of_step? moved
      have reached : run = t.run := (congrArg Session.run same).symm
      rw [(fits_replay? earlier).params, reached] at step
      exact stepped moves u mid event t after earlier moved step (ih earlier)

/-- The calls that came to their end in a history are those that its journal tells. -/
theorem calls_eq_callsBehind {p : Params} {sink : Sink} {store after : PendingStore}
    {moves : List Move} {t : Session}
    (played : (Session.fresh p sink).replay? store moves = some (t, after))
    (whole : ¬ t.run.phase.Broken) :
    callsEnded moves = t.run.phase.callsBehind (.ofMoves moves) := by
  induction moves using List.reverseRecOn generalizing t after with
  | nil =>
    cases played
    rfl
  | append_singleton moves move ih =>
    obtain ⟨u, mid, earlier, moved⟩ := Session.replay?_concat played
    have fits := Session.fits_replay? earlier
    rw [callsEnded_append, Journal.ofMoves, List.foldl_append]
    cases move with
    | requestStop =>
      cases moved
      rw [ih earlier whole]
      have same : ∀ phase : Phase, phase.callsBehind ((Journal.ofMoves moves).note .requestStop) =
          phase.callsBehind (.ofMoves moves) := by
        intro phase
        cases phase <;> rfl
      exact (List.append_nil _).trans (same _).symm
    | event event =>
      obtain ⟨-, run, step, rfl, rfl⟩ := Session.step_of_step? moved
      rw [fits.params] at step
      rw [ih earlier step.not_broken]
      rw [callsEnded_singleton]
      exact (callsBehind_step fits.run step whole).symm

namespace Course

theorem step?_begins {c d : Course} {action : Action} (h : c.step? (.begins action) = some d) :
    c.phase.action? = some action ∧ c.underway = false ∧ d = { c with underway := true } := by
  simp only [step?] at h
  split at h
  · rename_i possible
    cases h
    exact ⟨possible.1, possible.2, rfl⟩
  · cases h

theorem step?_ends {c d : Course} {event : Event} (h : c.step? (.ends event) = some d) :
    c.underway = true ∧ d.underway = false ∧
      c.session.step? c.store event = some (d.session, d.store) := by
  simp only [step?] at h
  split at h
  · rename_i underway
    obtain ⟨⟨session, store⟩, moved, rfl⟩ := Option.map_eq_some_iff.1 h
    exact ⟨underway, rfl, moved⟩
  · cases h

theorem replay?_concat {c d : Course} {moments : List Moment} {moment : Moment}
    (played : c.replay? (moments ++ [moment]) = some d) :
    ∃ u, c.replay? moments = some u ∧ u.step? moment = some d := by
  rw [replay?_append, Option.bind_eq_some_iff] at played
  obtain ⟨u, earlier, last⟩ := played
  obtain ⟨v, moved, rest⟩ := Option.bind_eq_some_iff.1 last
  cases rest
  exact ⟨u, earlier, moved⟩

/-- Apart from the beginnings of its actions, a course is a history of its session. -/
theorem replay?_session {c d : Course} {moments : List Moment}
    (played : c.replay? moments = some d) :
    c.session.replay? c.store (movesOf moments) = some (d.session, d.store) := by
  induction moments generalizing c with
  | nil =>
    cases played
    rfl
  | cons moment rest ih =>
    obtain ⟨u, moved, played⟩ := Option.bind_eq_some_iff.1 played
    have later := ih played
    cases moment with
    | begins action =>
      obtain ⟨-, -, rfl⟩ := step?_begins moved
      exact later
    | ends event =>
      have moves : movesOf (.ends event :: rest) = .event event :: movesOf rest := rfl
      rw [moves, Session.replay?, Session.move?, (step?_ends moved).2.2]
      exact later
    | requestStop =>
      cases moved
      exact later

def pending (c : Course) : List Action := if c.underway then c.phase.call?.toList else []

theorem pending_of_idle {c : Course} (idle : c.underway = false) : c.pending = [] := by
  unfold pending
  rw [idle]
  rfl

theorem pending_of_busy {c : Course} (busy : c.underway = true) :
    c.pending = c.phase.call?.toList := by
  unfold pending
  rw [busy]
  rfl

theorem callsBegun_eq {c d : Course} {moments : List Moment} (rest : c.underway = false)
    (played : c.replay? moments = some d) (whole : ¬ d.phase.Broken) :
    callsBegun moments = callsEnded (movesOf moments) ++ d.pending := by
  induction moments using List.reverseRecOn generalizing d with
  | nil =>
    cases played
    rw [pending_of_idle rest]
    rfl
  | append_singleton moments moment ih =>
    obtain ⟨u, earlier, moved⟩ := replay?_concat played
    unfold callsBegun movesOf
    rw [List.filterMap_append, List.filterMap_append, callsEnded_append]
    change callsBegun moments ++ _ = callsEnded (movesOf moments) ++ _ ++ _
    cases moment with
    | begins action =>
      obtain ⟨at_phase, idle, rfl⟩ := step?_begins moved
      have begun : [Moment.begins action].filterMap Moment.callBegun? =
          u.phase.call?.toList := by
        unfold Phase.call?
        rw [at_phase]
        cases action <;> rfl
      rw [ih earlier whole, pending_of_idle idle, begun, List.append_nil]
      exact congrArg (· ++ _) (List.append_nil _).symm
    | ends event =>
      obtain ⟨busy, idle, stepped⟩ := step?_ends moved
      obtain ⟨-, run, step, same, -⟩ := Session.step_of_step? stepped
      have ended : event.call? = u.phase.call? := by
        rcases step.call? with ended | ⟨-, broken⟩
        · exact ended
        · refine absurd ?_ whole
          unfold phase
          rw [same]
          exact broken
      have one : [Moment.ends event].filterMap Moment.move? = [.event event] := rfl
      rw [ih earlier step.not_broken, pending_of_busy busy, pending_of_idle idle, one,
        callsEnded_singleton, ended]
      exact (List.append_nil _).trans (List.append_nil _).symm
    | requestStop =>
      cases moved
      rw [ih earlier whole]
      exact (List.append_nil _).trans (congrArg (· ++ _) (List.append_nil _).symm)

end Course

end BurstProfiler.Schedule
