import BurstProfiler.Schedule.History

/-! The transitions of a run and of a session. Whatever is proved about a run is proved for each
transition and carried over the history from there. -/

set_option autoImplicit false

namespace BurstProfiler.Schedule

/-- The phases in which code of the capturer or of the callback runs, which may break off. -/
def Phase.MayBreak : Phase → Prop
  | .creating | .starting _ | .capturing _ | .closing _ _ | .completing => True
  | _ => False

/-- The transitions of a run, one for each phase and each answer to what is done in it. -/
inductive Run.Step (p : Params) (r : Run) : Event → Run → Prop where
  | available (now : Instant) : r.phase = .creating →
      Step p r (.created true now) (r.enterBurst p (.first p now))
  | unavailable (now : Instant) : r.phase = .creating →
      Step p r (.created false now)
        (conclude { r with summary := { r.summary with unavailable := true } })
  | burstStopped (b : Burst) (now : Instant) : r.phase = .awaitingBurst b →
      Step p r (.awoke true now) r.halt.conclude
  | burstDue (b : Burst) (now : Instant) : r.phase = .awaitingBurst b →
      mayAwake false now b.target = true →
      Step p r (.awoke false now) { r with phase := .starting b, state := .inBurst }
  | started (b : Burst) (now : Instant) : r.phase = .starting b →
      Step p r (.started now) { r with phase := slotPhase p (.begin p b now) }
  | slotStopped (recording : Recording) (now : Instant) : r.phase = .awaitingSlot recording →
      Step p r (.awoke true now) { r with phase := .closing recording true }
  | slotDue (recording : Recording) (now : Instant) : r.phase = .awaitingSlot recording →
      mayAwake false now (recording.due? p) = true →
      Step p r (.awoke false now) { r with phase := .capturing recording }
  | captured (recording : Recording) (met : List Module) (result : Except Error Sample) :
      r.phase = .capturing recording →
      Step p r (.captured met result) { r with
        phase := slotPhase p (recording.afterCapture met result)
        summary := r.summary.afterCapture result }
  | closed (recording : Recording) (interrupted : Bool) (now : Instant) :
      r.phase = .closing recording interrupted →
      Step p r (.closed now)
        { r with phase := .publishing recording.burst (recording.profile now) interrupted }
  | publishedLast (b : Burst) (profile : Profile) : r.phase = .publishing b profile true →
      Step p r .published (conclude (halt { r with
        summary := { r.summary with
          profiles := r.summary.profiles + 1
          samples := r.summary.samples + profile.samples.length } }))
  | published (b : Burst) (profile : Profile) : r.phase = .publishing b profile false →
      Step p r .published (enterBurst p { r with
        summary := { r.summary with
          profiles := r.summary.profiles + 1
          samples := r.summary.samples + profile.samples.length } } (b.next p))
  | completed : r.phase = .completing →
      Step p r .completed { r with
        phase := .ended
        state := if r.summary.stopped then .stopped else .finished }
  | broke (message : String) : r.phase.MayBreak →
      Step p r (.broke message) { r with phase := .broken message }

theorem Run.step_of_step? {p : Params} {r s : Run} {event : Event}
    (h : r.step? p event = some s) : r.Step p event s := by
  unfold step? at h
  split at h
  · rename_i now at_phase
    cases h
    exact .available now at_phase
  · rename_i now at_phase
    cases h
    exact .unavailable now at_phase
  · rename_i b stopped now at_phase
    split at h
    · rename_i awake
      cases stopped with
      | true => cases h; exact .burstStopped b now at_phase
      | false => cases h; exact .burstDue b now at_phase awake
    · cases h
  · rename_i b now at_phase
    cases h
    exact .started b now at_phase
  · rename_i recording stopped now at_phase
    split at h
    · rename_i awake
      cases stopped with
      | true => cases h; exact .slotStopped recording now at_phase
      | false => cases h; exact .slotDue recording now at_phase awake
    · cases h
  · rename_i recording met result at_phase
    cases h
    exact .captured recording met result at_phase
  · rename_i recording interrupted now at_phase
    cases h
    exact .closed recording interrupted now at_phase
  · rename_i b profile interrupted at_phase
    cases interrupted with
    | true => cases h; exact .publishedLast b profile at_phase
    | false => cases h; exact .published b profile at_phase
  · rename_i at_phase
    cases h
    exact .completed at_phase
  · rename_i at_phase; cases h; exact .broke _ (by rw [at_phase]; trivial)
  · rename_i at_phase; cases h; exact .broke _ (by rw [at_phase]; trivial)
  · rename_i at_phase; cases h; exact .broke _ (by rw [at_phase]; trivial)
  · rename_i at_phase; cases h; exact .broke _ (by rw [at_phase]; trivial)
  · rename_i at_phase; cases h; exact .broke _ (by rw [at_phase]; trivial)
  · cases h

namespace Session

-- A step of a session is a step of its run, which agrees with the flag and is delivered.
theorem step_of_step? {s t : Session} {store after : PendingStore} {event : Event}
    (h : s.step? store event = some (t, after)) :
    s.agrees event = true ∧ ∃ run, s.run.Step s.params event run ∧
      t = { (s.deliver store event).1 with run := run } ∧ after = (s.deliver store event).2 := by
  unfold step? at h
  split at h
  · rename_i agrees
    obtain ⟨run, step, same⟩ := Option.map_eq_some_iff.1 h
    cases same
    exact ⟨agrees, run, Run.step_of_step? step, rfl, rfl⟩
  · cases h

-- What holds at first and is kept by every move holds behind every history. The fold gathers
-- what the history shows.
theorem replay?_induction {α : Type} (note : α → Move → α)
    (holds : α → Session → PendingStore → Prop)
    (kept : ∀ {a s store move t after}, holds a s store →
      s.move? store move = some (t, after) → holds (note a move) t after)
    {a : α} {s t : Session} {store after : PendingStore} {moves : List Move}
    (first : holds a s store) (played : s.replay? store moves = some (t, after)) :
    holds (moves.foldl note a) t after := by
  induction moves generalizing a s store with
  | nil => cases played; exact first
  | cons move rest ih =>
    unfold replay? at played
    split at played
    · cases played
    · rename_i u mid moved
      exact ih (kept first moved) played

end Session

end BurstProfiler.Schedule
