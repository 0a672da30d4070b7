import BurstProfiler.Proofs.Profiler.Lifecycle
import BurstProfiler.Proofs.Schedule.Discipline

/-! What the state of a profiler tells of its results. While somebody may still wait for the run,
a terminal state means that it returned and that its profiles are handed over. Once somebody has
waited, a run that broke off is told as one that finished. -/

set_option autoImplicit false

namespace BurstProfiler.Profiler

open Schedule

/-- The results of a run that returned. All of its calls are those of its bursts, none of which
was cut off; and their profiles are in the store, or the callback took them in one batch. -/
structure Delivered (p : Params) (callback : Option Callback) (moves : List Move)
    (appended : List Profile) (received : List Receipt) : Prop where
  calls : callsEnded moves = .create :: (Journal.ofMoves moves).burstCalls ++ [.complete]
  captures : (Journal.ofMoves moves).bursts.flatMap BurstEntry.captures =
    (Journal.ofMoves moves).captures
  toStore : callback = none → received = [] ∧
    appended = (Journal.ofMoves moves).bursts.map (BurstEntry.profile p)
  toCallback : callback.isSome → appended = [] ∧
    received = [⟨callback, (Journal.ofMoves moves).bursts.map (BurstEntry.profile p)⟩]

theorem Dealt.delivered {p : Params} {callback : Option Callback} {moves : List Move}
    {appended : List Profile} {received : List Receipt} {m : Member} {s : Session}
    {stored : PendingStore} (h : Dealt p callback moves appended received m s stored)
    (returned : m.profiler.session.run.result?.isSome) :
    Delivered p callback moves appended received := by
  rw [← h.run] at returned
  obtain ⟨summary, result⟩ := Option.isSome_iff_exists.1 returned
  have ended := (phase_of_result? result).1
  have whole : ¬ s.run.phase.Broken := by
    rintro ⟨message, broken⟩
    cases ended.symm.trans broken
  have all := bursts_eq_stored h.solo
  rw [ended] at all
  have stored_all : stored.profiles =
      (Journal.ofMoves moves).bursts.map (BurstEntry.profile p) :=
    (all.trans (List.append_nil _)).symm
  refine ⟨?_, (Session.fits_replay? h.solo).run.captures_of_ended ended, ?_, ?_⟩
  · rw [calls_eq_callsBehind h.solo whole, ended]
    rfl
  · intro uncalled
    rw [(h.toStore uncalled).1, stored_all]
    exact ⟨(h.toStore uncalled).2, rfl⟩
  · intro called
    obtain ⟨nothing, received⟩ := h.toCallback called
    rw [← h.run, if_pos returned, stored_all] at received
    exact ⟨nothing, received⟩

structure StateTells (p : Params) (c₀ : Company) (i : Nat) (acts : List Act) (m : Member) :
    Prop where
  /-- A terminal state means that the run returned, or that it broke off and somebody waited for
  it since. -/
  terminal : m.profiler.state.isTerminal = true ↔
    m.profiler.session.run.result?.isSome ∨
      m.profiler.session.run.phase.Broken ∧ .start i ∈ acts ∧ Awaited i acts
  delivered : m.profiler.session.run.result?.isSome →
    Delivered p (installed i acts) (c₀.record Member.moves i acts)
      (c₀.record Member.appends i acts) (c₀.record Member.receives i acts)
  /-- A run that broke off has no counters, and its callback took nothing. -/
  broken : m.profiler.session.run.phase.Broken → m.profiler.summary = none ∧
    ((installed i acts).isSome → c₀.record Member.receives i acts = [])

theorem result?_of_broken {r : Run} (broken : r.phase.Broken) : r.result? = none := by
  obtain ⟨message, at_phase⟩ := broken
  unfold Run.result?
  rw [at_phase]

section Member

variable {p : Params} {c₀ : Company} {i : Nat} {acts : List Act} {m : Member}

-- Behind a wait for it a started profiler always reports that its run is over.
theorem state_of_detached (detached : m.profiler.attached = false)
    (started : m.profiler.started = true) : m.profiler.state.isTerminal = true := by
  unfold Profiler.state
  rw [detached, started]
  simp only [Bool.false_eq_true, ↓reduceIte]
  split <;> rfl

theorem Standing.terminal_iff (h : Standing p c₀ i acts m) :
    m.profiler.state.isTerminal = true ↔
      m.profiler.session.run.result?.isSome ∨
        m.profiler.session.run.phase.Broken ∧ .start i ∈ acts ∧ Awaited i acts := by
  by_cases started : .start i ∈ acts
  · have launched := h.launched started
    cases attached : m.profiler.attached with
    | true =>
      have reports : m.profiler.state = m.profiler.session.run.state := by
        unfold Profiler.state
        rw [if_pos attached]
      rw [reports, (lawful_replay? launched.session).1.isTerminal]
      refine ⟨.inl, ?_⟩
      rintro (returned | ⟨-, -, awaited⟩)
      · exact returned
      · cases attached.symm.trans (h.attended.awaited awaited).1
    | false =>
      refine ⟨fun _ => ?_, fun _ => state_of_detached attached launched.started⟩
      by_cases whole : m.profiler.session.run.phase.Broken
      · exact .inr ⟨whole, started, h.attended.detached started attached⟩
      · exact .inl (result?_of_isOver (launched.finished attached) whole)
  · have waiting := h.waiting started
    have idle : m.profiler.state = .idle := by
      unfold Profiler.state
      rw [waiting.attached, waiting.summary, waiting.started]
      rfl
    rw [idle, waiting.run]
    refine ⟨nofun, ?_⟩
    rintro (contrary | ⟨-, contrary, -⟩)
    · cases contrary
    · exact absurd contrary started

theorem Standing.summary_of_broken (h : Standing p c₀ i acts m)
    (broken : m.profiler.session.run.phase.Broken) : m.profiler.summary = none := by
  by_cases started : .start i ∈ acts
  · rw [(h.launched started).summary, result?_of_broken broken]
    exact ite_self _
  · exact (h.waiting started).summary

end Member

/-- **A terminal state tells of handed-over results, or of a run that broke off.** Whatever the
calls on the profilers, their capturers and their callbacks. -/
theorem terminal_state_tells {targets : List (ThreadId × Params)} {i : Nat} {thread : ThreadId}
    {p : Params} {acts : List Act} {c : Company} (target : targets[i]? = some (thread, p))
    (played : (Company.ofTargets targets).replay? acts = some c) :
    ∃ m, c.members[i]? = some m ∧ StateTells p (.ofTargets targets) i acts m := by
  obtain ⟨m, member, standing⟩ := exists_standing target played
  obtain ⟨s, stored, dealt⟩ := standing.exists_dealt
  refine ⟨m, member, standing.terminal_iff, dealt.delivered, fun broken => ⟨?_, fun called => ?_⟩⟩
  · exact standing.summary_of_broken broken
  · rw [(dealt.toCallback called).2, result?_of_broken broken]
    rfl

def pairedParams : Params := ⟨.zero, 2, .zero, 2, .zero, true⟩

def pairedTargets : List (ThreadId × Params) := [(⟨0⟩, pairedParams)]

def brokenRun : List Act :=
  [.setCallback 0 .takes, .start 0, .work 0 (.created true .origin),
    .work 0 (.awoke false .origin), .work 0 (.started .origin),
    .work 0 (.awoke false .origin), .work 0 (.captured [] (.ok [⟨4096, none⟩])),
    .work 0 (.awoke false .origin), .work 0 (.captured [] (.ok [⟨4096, none⟩])),
    .work 0 (.closed .origin), .work 0 .published,
    .work 0 (.awoke false .origin), .work 0 (.started .origin),
    .work 0 (.awoke false .origin), .work 0 (.broke "boom")]

theorem terminal_state_tells_broken_run :
    ∃ c m, (Company.ofTargets pairedTargets).replay? brokenRun = some c ∧
      c.members[0]? = some m ∧
      StateTells pairedParams (.ofTargets pairedTargets) 0 brokenRun m := by
  obtain ⟨m, member, tells⟩ :=
    @terminal_state_tells pairedTargets 0 ⟨0⟩ pairedParams brokenRun _ rfl rfl
  exact ⟨_, m, rfl, member, tells⟩

/-- Somebody who waited for that run is told that it finished, though its callback never ran and
its second burst is lost. -/
theorem finished_without_delivery :
    ∃ c m, (Company.ofTargets pairedTargets).replay? (brokenRun ++ [.wait 0]) = some c ∧
      c.members[0]? = some m ∧ m.profiler.state = .finished ∧
      m.profiler.state.isTerminal = true ∧
      installed 0 (brokenRun ++ [.wait 0]) = some .takes ∧
      (Company.ofTargets pairedTargets).record Member.receives 0 (brokenRun ++ [.wait 0]) = [] :=
  ⟨_, _, rfl, rfl, rfl, rfl, rfl, rfl⟩

end BurstProfiler.Profiler
