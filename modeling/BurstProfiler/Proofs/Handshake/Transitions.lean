import BurstProfiler.Stack.Handshake
import Mathlib.Data.List.Induction

/-! The transitions of a scene: what each step can do, with the conditions under which it does
so. -/

set_option autoImplicit false

namespace BurstProfiler.Stack.Handshake

inductive RunStep (slot : Slot) (captures index : Nat) (r : HandlerRun) :
    Slot → HandlerRun → Prop where
  | claim : r.stage = .entered → slot.armed = r.thread → RunStep slot captures index r
      { slot with armed := disarmed } { r with stage := .writing 0, claimed := some captures }
  | pass : r.stage = .entered → slot.armed ≠ r.thread →
      RunStep slot captures index r slot { r with stage := .finished }
  | write (written : Nat) (address : UInt64) : r.stage = .writing written →
      r.stack[written]? = some address → RunStep slot captures index r
        { slot with cells := slot.cells.setIfInBounds written ⟨address, some index⟩ }
        { r with stage := .writing (written + 1) }
  | storeDepth (written : Nat) : r.stage = .writing written → r.stack[written]? = none →
      RunStep slot captures index r { slot with depth := r.stack.length }
        { r with stage := .depthStored }
  | setDone : r.stage = .depthStored →
      RunStep slot captures index r { slot with done := true } { r with stage := .finished }
  | rest : r.stage = .finished → RunStep slot captures index r slot r

/-- The transitions of a scene, one for each step and each answer to it. -/
inductive Scene.Moves (s : Scene) : Step → Scene → Prop where
  | reset (target : ThreadId) : s.stage = .idle → target ≠ disarmed →
      Moves s (.reset target) { s with
        stage := .clearing target
        captures := s.captures + 1
        slot := { s.slot with depth := 0 } }
  | clear (target : ThreadId) : s.stage = .clearing target →
      Moves s .clear { s with stage := .arming target, slot := { s.slot with done := false } }
  | arm (target : ThreadId) : s.stage = .arming target →
      Moves s .arm { s.arm target with stage := .sending target }
  | queued (target : ThreadId) : s.stage = .sending target → target ∉ s.exited →
      Moves s (.send .queued)
        { s with stage := .polling target, pending := s.pending ++ [target] }
  | merged (target : ThreadId) : s.stage = .sending target → target ∈ s.pending →
      Moves s (.send .merged) { s with stage := .polling target }
  | refused (target : ThreadId) : s.stage = .sending target → target ∈ s.exited →
      Moves s (.send .refused) { s with stage := .failing target }
  | disarm (target : ThreadId) : s.stage = .failing target →
      Moves s .disarm ((s.arm disarmed).answer target .refused)
  | done (target : ThreadId) : s.stage = .polling target → s.slot.done = true →
      Moves s .poll { s with stage := .measuring target }
  | undone (target : ThreadId) : s.stage = .polling target → s.slot.done = false → Moves s .poll s
  | timedOut (target : ThreadId) : s.stage = .polling target → s.slot.armed = target →
      Moves s .giveUp ((s.arm disarmed).answer target .timeout)
  | tooLate (target : ThreadId) : s.stage = .polling target → s.slot.armed ≠ target →
      Moves s .giveUp s
  | measure (target : ThreadId) : s.stage = .measuring target →
      Moves s .measure { s with stage := .copying target (min s.slot.depth maxDepth) [] }
  | copy (target : ThreadId) (depth : Nat) (copied : List Cell) :
      s.stage = .copying target depth copied → copied.length < depth →
      Moves s .copy { s with
        stage := .copying target depth (copied ++ (s.slot.cells[copied.length]?).toList) }
  | collect (target : ThreadId) (depth : Nat) (copied : List Cell) :
      s.stage = .copying target depth copied → depth ≤ copied.length →
      Moves s .copy (s.answer target (.stack copied))
  | handle (thread : ThreadId) (stack : List UInt64) : thread ∈ s.pending →
      s.isFree thread = true → stack.length ≤ maxDepth →
      Moves s (.handle thread stack) { s with
        pending := s.pending.erase thread
        runs := s.runs ++ [⟨thread, stack, .entered, none⟩] }
  | advance (index : Nat) (r r' : HandlerRun) (slot : Slot) : s.runs[index]? = some r →
      RunStep s.slot s.captures index r slot r' →
      Moves s (.advance index) { s with slot := slot, runs := s.runs.set index r' }
  | exit (thread : ThreadId) : s.isFree thread = true →
      Moves s (.exit thread) { s with
        exited := thread :: s.exited
        pending := s.pending.filter (· != thread) }
  | spawn (thread : ThreadId) :
      Moves s (.spawn thread) { s with exited := s.exited.filter (· != thread) }

theorem runStep_advanceRun (s : Scene) (index : Nat) (r : HandlerRun) :
    RunStep s.slot s.captures index r (s.advanceRun index r).1 (s.advanceRun index r).2 := by
  unfold Scene.advanceRun
  split
  · rename_i entered
    split
    · rename_i armed
      exact .claim entered armed
    · rename_i other
      exact .pass entered other
  · rename_i written writing
    split
    · rename_i address more
      exact .write written address writing more
    · rename_i through
      exact .storeDepth written writing through
  · rename_i stored
    exact .setDone stored
  · rename_i finished
    exact .rest finished

theorem Scene.moves_of_step? {s t : Scene} {step : Step} (h : s.step? step = some t) :
    s.Moves step t := by
  cases step with
  | reset target =>
    simp only [step?] at h
    split at h
    · rename_i idle
      split at h
      · cases h
      · rename_i known
        cases h
        exact .reset target idle known
    · cases h
  | clear =>
    simp only [step?] at h
    split at h
    · rename_i target at_stage
      cases h
      exact .clear target at_stage
    · cases h
  | arm =>
    simp only [step?] at h
    split at h
    · rename_i target at_stage
      cases h
      exact .arm target at_stage
    · cases h
  | disarm =>
    simp only [step?] at h
    split at h
    · rename_i target at_stage
      cases h
      exact .disarm target at_stage
    · cases h
  | measure =>
    simp only [step?] at h
    split at h
    · rename_i target at_stage
      cases h
      exact .measure target at_stage
    · cases h
  | send sending =>
    simp only [step?] at h
    split at h
    · rename_i target at_stage
      cases sending with
      | queued =>
        simp only [send?] at h
        split at h
        · cases h
        · rename_i present
          cases h
          exact .queued target at_stage (by simpa using present)
      | merged =>
        simp only [send?] at h
        split at h
        · rename_i waits
          cases h
          exact .merged target at_stage (by simpa using waits)
        · cases h
      | refused =>
        simp only [send?] at h
        split at h
        · rename_i gone
          cases h
          exact .refused target at_stage (by simpa using gone)
        · cases h
    · cases h
  | poll =>
    simp only [step?] at h
    split at h
    · rename_i target at_stage
      split at h
      · rename_i done
        cases h
        exact .done target at_stage done
      · rename_i undone
        cases h
        exact .undone target at_stage (Bool.eq_false_iff.2 undone)
    · cases h
  | giveUp =>
    simp only [step?] at h
    split at h
    · rename_i target at_stage
      split at h
      · rename_i armed
        cases h
        exact .timedOut target at_stage armed
      · rename_i taken
        cases h
        exact .tooLate target at_stage taken
    · cases h
  | copy =>
    simp only [step?] at h
    split at h
    · rename_i target depth copied at_stage
      cases h
      unfold copyCell
      split
      · rename_i more
        exact .copy target depth copied at_stage more
      · rename_i through
        exact .collect target depth copied at_stage (Nat.le_of_not_lt through)
    · cases h
  | handle thread stack =>
    simp only [step?] at h
    split at h
    · rename_i ready
      simp only [Bool.and_eq_true, List.contains_iff_mem, decide_eq_true_eq] at ready
      cases h
      exact .handle thread stack ready.1.1 ready.1.2 ready.2
    · cases h
  | advance index =>
    simp only [step?] at h
    split at h
    · rename_i r at_index
      cases h
      exact .advance index r _ _ at_index (runStep_advanceRun s index r)
    · cases h
  | exit thread =>
    simp only [step?] at h
    split at h
    · rename_i free
      cases h
      exact .exit thread free
    · cases h
  | spawn thread =>
    cases h
    exact .spawn thread

-- What holds of the fresh scene and its empty history, and is kept by every step, holds behind
-- every history.
theorem Scene.history_induction (holds : List Step → Scene → Prop)
    (first : holds [] .fresh)
    (kept : ∀ {steps s step t}, Scene.fresh.replay? steps = some s → holds steps s →
      s.Moves step t → holds (steps ++ [step]) t)
    {steps : List Step} {s : Scene} (played : Scene.fresh.replay? steps = some s) :
    holds steps s := by
  induction steps using List.reverseRecOn generalizing s with
  | nil => cases played; exact first
  | append_singleton before step ih =>
    rw [replay?_append] at played
    obtain ⟨u, earlier, last⟩ := Option.bind_eq_some_iff.1 played
    simp only [replay?] at last
    split at last
    · cases last
    · rename_i t stepped
      cases last
      exact kept earlier (ih earlier) (moves_of_step? stepped)

end BurstProfiler.Stack.Handshake
