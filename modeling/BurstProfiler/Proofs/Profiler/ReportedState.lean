import BurstProfiler.Proofs.Profiler.Standing
import BurstProfiler.Proofs.Schedule.Discipline

/-! The state that a profiler reports. Once somebody has waited for a run that returned, the state
is put together from the counters of the run, and it is the one the run itself ended in. -/

set_option autoImplicit false

namespace BurstProfiler.Profiler

open Schedule

theorem Launched.reports_end {p : Params} {callback : Option Callback} {moves : List Move}
    {appended : List Profile} {received : List Receipt} {m : Member}
    (h : Launched p callback moves appended received m) (detached : m.profiler.attached = false)
    (whole : ¬ m.profiler.session.run.phase.Broken) :
    m.profiler.state.isTerminal = true ∧ m.profiler.state = m.profiler.session.run.state := by
  have settled := result?_of_isOver (h.finished detached) whole
  obtain ⟨s, returned⟩ := Option.isSome_iff_exists.1 settled
  have summary := h.summary
  rw [detached, returned] at summary
  have ended := (discipline_replay? h.session).returned s returned
  have reported : m.profiler.state = if s.stopped then .stopped else .finished := by
    simp only [Profiler.state, detached, summary, h.started, Bool.false_eq_true, ↓reduceIte,
      Option.map_some, Option.getD_some]
  refine ⟨?_, reported.trans ended.2.2.2.symm⟩
  rw [reported]
  split <;> rfl

/-- **The discipline of a run.** Whatever its parameters, its capturer, its sink and the time of a
stop, at every point of a run its calls and the values of its state begin words of their laws. When
it returns they are such words, the state is terminal only from then on, and it tells whether the
run was stopped. A profiler whose run returned reports that state to whoever has waited for it. -/
theorem run_keeps_discipline {p : Params} {sink : Sink} {store after : PendingStore}
    {moves : List Move} {t : Session}
    (played : (Session.fresh p sink).replay? store moves = some (t, after)) :
    Discipline p sink store moves t ∧
    ∀ (targets : List (ThreadId × Params)) (i : Nat) (thread : ThreadId) (acts : List Act)
      (c : Company) (m : Member), targets[i]? = some (thread, p) →
      (Company.ofTargets targets).replay? acts = some c → c.members[i]? = some m →
      .start i ∈ acts → Awaited i acts → ¬ m.profiler.session.run.phase.Broken →
      Discipline p (sinkFor (installed i acts)) .empty
        ((Company.ofTargets targets).record Member.moves i acts) m.profiler.session ∧
      m.profiler.state.isTerminal = true ∧ m.profiler.state = m.profiler.session.run.state := by
  refine ⟨discipline_replay? played, ?_⟩
  intro targets i thread acts c m target ran member started awaited whole
  obtain ⟨n, there, standing⟩ := exists_standing target ran
  cases member.symm.trans there
  have launched := standing.launched started
  exact ⟨discipline_replay? launched.session,
    launched.reports_end (standing.attended.awaited awaited).1 whole⟩

def actsFor (moves : List Move) : List Act :=
  .start 0 :: moves.map (fun
    | .event event => .work 0 event
    | .requestStop => .stop 0) ++ [.wait 0]

theorem run_keeps_discipline_interrupted :
    (∃ t after, (Session.fresh briefParams (.custom [])).replay? .empty interruptedMoves =
        some (t, after) ∧
      Discipline briefParams (.custom []) .empty interruptedMoves t) ∧
    ∃ c m, (Company.ofTargets [(⟨0⟩, briefParams)]).replay? (actsFor interruptedMoves) = some c ∧
      c.members[0]? = some m ∧ m.profiler.session.run.state = .stopped ∧
      m.profiler.state = m.profiler.session.run.state := by
  refine ⟨⟨_, _, rfl, (@run_keeps_discipline briefParams (.custom []) .empty _ interruptedMoves _
    rfl).1⟩, _, _, rfl, rfl, rfl, ?_⟩
  exact ((@run_keeps_discipline briefParams (.custom []) .empty _ interruptedMoves _ rfl).2
    [(⟨0⟩, briefParams)] 0 ⟨0⟩ (actsFor interruptedMoves) _ _ rfl rfl rfl
    List.mem_cons_self (.inr ⟨_, [], rfl, List.mem_cons_self⟩)
    (by rintro ⟨message, contrary⟩; cases contrary)).2.2

end BurstProfiler.Profiler
