import BurstProfiler.Proofs.Profiler.Outcome

/-! The life of one profiler, whatever the order of the calls on it and however its run falls
between them: nothing is handed out before the start or behind the end of a drop, the callback
that was set last gets the profiles of the run once, and a call that comes too late is refused and
changes nothing. -/

set_option autoImplicit false

namespace BurstProfiler.Profiler

open Schedule

theorem Member.Step.broke_of_broken {m m' : Member} {store after : PendingStore} {act : Act}
    (step : m.Step store act m' after) (broken : m'.profiler.session.run.phase.Broken) :
    m.profiler.session.run.phase.Broken ∨ ∃ i message, act = .work i (.broke message) := by
  cases step with
  | work k _ event session after running stepped =>
    obtain ⟨-, run, step, rfl, -⟩ := Session.step_of_step? stepped
    obtain ⟨message, rfl, -⟩ := step.event_of_broken broken
    exact .inr ⟨k, message, rfl⟩
  | wait k q joins | letGo k q joins =>
    rw [join_session] at broken
    exact .inl broken
  | drop k q =>
    unfold beginDrop at broken
    split at broken <;> exact .inl broken
  | _ => exact .inl broken

theorem exists_broke {targets : List (ThreadId × Params)} {i : Nat} {thread : ThreadId}
    {p : Params} {acts : List Act} {c : Company} {m : Member}
    (target : targets[i]? = some (thread, p))
    (played : (Company.ofTargets targets).replay? acts = some c)
    (member : c.members[i]? = some m) (broken : m.profiler.session.run.phase.Broken) :
    ∃ message, .work i (.broke message) ∈ acts := by
  have fresh : ¬ (Profiler.create thread p).session.run.phase.Broken := by
    rintro ⟨message, contrary⟩
    cases contrary
  obtain ⟨n, there, traced⟩ := Company.member_induction
    (fun acts m => m.profiler.session.run.phase.Broken → ∃ message, .work i (.broke message) ∈ acts)
    (member_ofTargets target) (fun contrary => absurd contrary fresh)
    (fun {_ _ _ _ _ _} _ _ owner _ step before broken => by
      rcases step.broke_of_broken broken with earlier | ⟨k, message, rfl⟩
      · obtain ⟨message, earlier⟩ := before earlier
        exact ⟨message, List.mem_append_left _ earlier⟩
      · cases owner
        exact ⟨message, List.mem_concat_self⟩)
    (fun {_ _ _ _ _} _ _ _ before broken => by
      obtain ⟨message, earlier⟩ := before broken
      exact ⟨message, List.mem_append_left _ earlier⟩) played
  cases member.symm.trans there
  exact traced broken

end BurstProfiler.Profiler
