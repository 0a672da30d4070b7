import BurstProfiler.Proofs.Handshake.Scenes

/-! What a capture gets, told by the history that led to it. A run's claim stands in the history
behind the arming of the capture that it served, so a stack that is answered was asked for by that
very capture, however late signals of other captures were handled. -/

set_option autoImplicit false

namespace BurstProfiler.Stack.Handshake

/-- The thread for which the present capture has armed the slot. -/
def Stage.armed? : Stage → Option ThreadId
  | .idle | .clearing _ | .arming _ => none
  | .sending target | .failing target | .polling target | .measuring target
  | .copying target _ _ => some target

/-- In the course of a history, the capture with this number armed the slot for a thread. -/
def ArmedIn (steps : List Step) (capture : Nat) (target : ThreadId) : Prop :=
  ∃ before after s, steps = before ++ .arm :: after ∧ Scene.fresh.replay? before = some s ∧
    s.stage = .arming target ∧ s.captures = capture

/-- In the course of a history, a handler run on a thread claimed the slot, which the capture with
this number had armed for the thread. -/
def ClaimedIn (steps : List Step) (index capture : Nat) (thread : ThreadId) : Prop :=
  ∃ before after s r, steps = before ++ .advance index :: after ∧
    Scene.fresh.replay? before = some s ∧ s.runs[index]? = some r ∧ r.stage = .entered ∧
    r.thread = thread ∧ s.slot.armed = thread ∧ s.captures = capture ∧
    ArmedIn before capture thread

section Histories

variable {steps : List Step} {s t : Scene} {step : Step}

theorem ArmedIn.concat {capture : Nat} {target : ThreadId} (h : ArmedIn steps capture target)
    (step : Step) : ArmedIn (steps ++ [step]) capture target := by
  obtain ⟨before, after, s, rfl, armed⟩ := h
  exact ⟨before, after ++ [step], s, by simp, armed⟩

theorem ClaimedIn.concat {index capture : Nat} {thread : ThreadId}
    (h : ClaimedIn steps index capture thread) (step : Step) :
    ClaimedIn (steps ++ [step]) index capture thread := by
  obtain ⟨before, after, s, r, rfl, claimed⟩ := h
  exact ⟨before, after ++ [step], s, r, by simp, claimed⟩

theorem Scene.Moves.armed {target : ThreadId} (move : s.Moves step t)
    (armed : t.stage.armed? = some target) : t.captures = s.captures ∧
      (s.stage.armed? = some target ∨ step = .arm ∧ s.stage = .arming target) := by
  cases move with
  | reset target at_stage | clear target at_stage | disarm target at_stage
  | timedOut target at_stage | collect target depth copied at_stage => cases armed
  | arm target at_stage =>
    cases armed
    exact ⟨rfl, .inr ⟨rfl, at_stage⟩⟩
  | queued target at_stage | merged target at_stage | refused target at_stage
  | done target at_stage | measure target at_stage | copy target depth copied at_stage =>
    cases armed
    rw [at_stage]
    exact ⟨rfl, .inl rfl⟩
  | undone | tooLate | handle | advance | exit | spawn => exact ⟨rfl, .inl armed⟩

theorem Scene.Moves.claimed {index capture : Nat} {r : HandlerRun} (move : s.Moves step t)
    (place : t.runs[index]? = some r) (claimed : r.claimed = some capture) :
    ∃ q, s.runs[index]? = some q ∧ q.thread = r.thread ∧ (q.claimed = some capture ∨
      step = .advance index ∧ q.stage = .entered ∧ s.slot.armed = q.thread ∧
        s.captures = capture) := by
  cases move with
  | handle thread stack =>
    rcases getElem?_concat_eq_some place with before | ⟨-, rfl⟩
    · exact ⟨r, before, rfl, .inl claimed⟩
    · cases claimed
  | advance i q q' slot at_index step =>
    rcases getElem?_set_eq_some place with ⟨rfl, rfl⟩ | ⟨-, before⟩
    · refine ⟨q, at_index, step.thread.symm, ?_⟩
      cases step with
      | claim entered armed =>
        cases claimed
        exact .inr ⟨rfl, entered, armed, rfl⟩
      | pass | write | storeDepth | setDone | rest => exact .inl claimed
    · exact ⟨r, before, rfl, .inl claimed⟩
  | _ => exact ⟨r, place, rfl, .inl claimed⟩

structure Traced (steps : List Step) (s : Scene) : Prop where
  sound : s.Sound
  armed : ∀ target, s.stage.armed? = some target → ArmedIn steps s.captures target
  claims : ∀ (i : Nat) (r : HandlerRun) (k : Nat), s.runs[i]? = some r → r.claimed = some k →
    ClaimedIn steps i k r.thread

-- The slot is quiet until the capture has armed it, and one of three from there on.
theorem Scene.Sound.quiet_or_contested (h : s.Sound) :
    s.stage.armed? = none ∧ Quiet s.slot s.runs ∨
      ∃ target, s.stage.armed? = some target ∧ Contested s.slot s.runs s.captures target := by
  have stage := h.stage
  cases at_stage : s.stage with
  | idle =>
    rw [at_stage] at stage
    exact .inl ⟨rfl, stage⟩
  | clearing target =>
    rw [at_stage] at stage
    exact .inl ⟨rfl, stage.2⟩
  | arming target =>
    rw [at_stage] at stage
    exact .inl ⟨rfl, stage.2.1⟩
  | sending target | polling target =>
    rw [at_stage] at stage
    exact .inr ⟨target, rfl, stage.2⟩
  | failing target =>
    rw [at_stage] at stage
    exact .inr ⟨target, rfl, stage.2.1⟩
  | measuring target =>
    rw [at_stage] at stage
    obtain ⟨i, r, delivered⟩ := stage
    exact .inr ⟨target, rfl, .delivered i r delivered⟩
  | copying target depth copied =>
    rw [at_stage] at stage
    obtain ⟨i, r, delivered, -⟩ := stage
    exact .inr ⟨target, rfl, .delivered i r delivered⟩

-- An armed slot names a thread only for the capture that has armed it.
theorem Scene.Sound.armed? (h : s.Sound) {thread : ThreadId} (known : thread ≠ disarmed)
    (armed : s.slot.armed = thread) : s.stage.armed? = some thread := by
  rcases h.quiet_or_contested with ⟨-, quiet⟩ | ⟨target, stage, contested⟩
  · exact absurd (armed.symm.trans quiet.shut) known
  · cases contested with
    | unclaimed h => rw [stage, ← h.armed, armed]
    | taken i r h => exact absurd (armed.symm.trans h.shut) known
    | delivered i r h => exact absurd (armed.symm.trans h.shut) known

theorem Traced.moves (h : Traced steps s) (played : Scene.fresh.replay? steps = some s)
    (move : s.Moves step t) : Traced (steps ++ [step]) t := by
  refine ⟨h.sound.step move, fun target armed => ?_, fun i r k place claimed => ?_⟩
  · obtain ⟨captures, before | ⟨rfl, at_stage⟩⟩ := move.armed armed
    · rw [captures]
      exact (h.armed target before).concat step
    · exact ⟨steps, [], s, rfl, played, at_stage, captures.symm⟩
  · obtain ⟨q, before, thread, earlier | ⟨rfl, entered, armed, rfl⟩⟩ := move.claimed place claimed
    · rw [← thread]
      exact (h.claims i q k before earlier).concat step
    · have known := (h.sound.runs i q before).1
      rw [← thread]
      exact ⟨steps, [], s, q, rfl, played, before, entered, rfl, armed, rfl,
        h.armed q.thread (h.sound.armed? known armed)⟩

theorem traced_replay? (played : Scene.fresh.replay? steps = some s) : Traced steps s :=
  Scene.history_induction Traced ⟨Scene.sound_fresh, nofun, nofun⟩
    (fun played traced move => traced.moves played move) played

theorem Scene.Sound.sole_owner (h : s.Sound) {i j : Nat} {q r : HandlerRun}
    (first : s.runs[i]? = some q) (second : s.runs[j]? = some r) (owns : q.owns = true)
    (owns' : r.owns = true) : i = j := by
  have unowned : ¬ Unowned s.runs := fun none => by cases owns.symm.trans (none i q first)
  rcases h.quiet_or_contested with ⟨-, quiet⟩ | ⟨target, -, contested⟩
  · exact absurd quiet.unowned unowned
  · cases contested with
    | unclaimed h => exact absurd h.unowned unowned
    | taken k run h => exact (h.sole i q first owns).trans (h.sole j r second owns').symm
    | delivered k run h => exact absurd h.unowned unowned

theorem Scene.Sound.quiet (h : s.Sound) (unarmed : s.stage.armed? = none) :
    Quiet s.slot s.runs := by
  rcases h.quiet_or_contested with ⟨-, quiet⟩ | ⟨target, armed, -⟩
  · exact quiet
  · cases unarmed.symm.trans armed

theorem Scene.Moves.unarmed_of_answer {a : Answer} (move : s.Moves step t)
    (answered : t.answers = s.answers ++ [a]) : t.stage.armed? = none := by
  have silent : s.answers ≠ s.answers ++ [a] := by simp
  cases move with
  | disarm | timedOut | collect => rfl
  | _ => exact absurd answered silent

theorem unarmed_replay? {more : List Step} (unarmed : s.stage.armed? = none)
    (played : s.replay? more = some t) (free : Step.arm ∉ more) : t.stage.armed? = none := by
  induction more generalizing s with
  | nil =>
    cases played
    exact unarmed
  | cons step rest ih =>
    simp only [List.mem_cons, not_or] at free
    simp only [Scene.replay?] at played
    split at played
    · cases played
    · rename_i u stepped
      refine ih ?_ played free.2
      cases armed : u.stage.armed? with
      | none => rfl
      | some target =>
        obtain ⟨-, before | ⟨rfl, -⟩⟩ := (Scene.moves_of_step? stepped).armed armed
        · cases unarmed.symm.trans before
        · exact absurd rfl free.1

end Histories

/-- What the hand-shake promises behind a history. -/
structure Promised (steps : List Step) (s : Scene) : Prop where
  owner : ∀ (i j : Nat) (q r : HandlerRun), s.runs[i]? = some q → s.runs[j]? = some r →
    q.owns = true → r.owns = true → i = j
  /-- A stack that a capture returned is the whole of what one run wrote. The run was on the
  capture's target and claimed the slot behind this capture's arming of it. -/
  returned : ∀ a ∈ s.answers, ∀ cells, a.result = .stack cells →
    ∃ (i : Nat) (r : HandlerRun), s.runs[i]? = some r ∧ r.stage = .finished ∧
      r.thread = a.target ∧ cells = r.stack.map (fun address => ⟨address, some i⟩) ∧
      ClaimedIn steps i a.capture a.target
  /-- When a capture has returned, with a stack, a timeout or an error, no handler writes the slot
  until a capture arms it again. -/
  quiet : ∀ step t a more u, s.step? step = some t → t.answers = s.answers ++ [a] →
    t.replay? more = some u → .arm ∉ more →
    ∀ i v, u.step? (.advance i) = some v → v.slot = u.slot

/-- **Late signals do no harm.** In every interleaving of captures, signals, handlers and threads
that exit, one run at most has the slot, a capture gets the stack that it asked for, and nobody
writes behind a capture that has given up. -/
theorem handshake_keeps_promises {steps : List Step} {s : Scene}
    (played : Scene.fresh.replay? steps = some s) : Promised steps s := by
  have traced := traced_replay? played
  refine ⟨fun i j q r first second => traced.sound.sole_owner first second, ?_, ?_⟩
  · intro a member cells stack
    obtain ⟨i, r, place, finished, thread, claimed, same⟩ :=
      traced.sound.answers a member cells stack
    exact ⟨i, r, place, finished, thread, same, thread ▸ traced.claims i r a.capture place claimed⟩
  · intro step t a more u stepped answered rest free i v advanced
    have onward : Scene.fresh.replay? (steps ++ step :: more) = some u := by
      rw [Scene.replay?_append, played, Option.bind_some, Scene.replay?, stepped]
      exact rest
    have sound := (traced_replay? onward).sound
    have unarmed := unarmed_replay? ((Scene.moves_of_step? stepped).unarmed_of_answer answered)
      rest free
    cases Scene.moves_of_step? advanced with
    | advance index r r' slot at_index step =>
      exact ((sound.quiet unarmed).advance at_index (sound.runs i r at_index).1 step).1

/-- The signal of a capture that timed out is handled while another one has armed the slot. -/
def lateSignal : List Step :=
  [.reset ⟨7⟩, .clear, .arm, .send .queued, .poll, .giveUp,
    .reset ⟨9⟩, .clear, .arm, .handle ⟨7⟩ [70, 71], .send .queued, .handle ⟨9⟩ [90, 91], .advance 1,
    .advance 0, .giveUp, .advance 1, .advance 1, .advance 1, .advance 1, .poll, .measure, .copy,
    .copy, .copy]

theorem handshake_keeps_promises_late_signal : ∃ s, Scene.fresh.replay? lateSignal = some s ∧
    s.answers = [⟨1, ⟨7⟩, .timeout⟩, ⟨2, ⟨9⟩, .stack [⟨90, some 1⟩, ⟨91, some 1⟩]⟩] ∧
    Promised lateSignal s := by
  have answers : (Scene.fresh.replay? lateSignal).map Scene.answers =
      some [⟨1, ⟨7⟩, .timeout⟩, ⟨2, ⟨9⟩, .stack [⟨90, some 1⟩, ⟨91, some 1⟩]⟩] := by
    decide +kernel
  obtain ⟨s, played, answered⟩ := Option.map_eq_some_iff.1 answers
  exact ⟨s, played, answered, handshake_keeps_promises played⟩

end BurstProfiler.Stack.Handshake
