import BurstProfiler.Proofs.Places
import BurstProfiler.StopSignal.Waiters

/-! Threads that wait on a stop signal. A test of the flag and the step to the parked threads are
one section under the lock, so the flag is never set between them: whoever parks finds it unset, and
the stop that sets it notifies all who are parked. -/

set_option autoImplicit false

namespace BurstProfiler.StopSignal

inductive Scene.Moves (s : Scene) : Step → Scene → Prop where
  | again : s.stopped = true → Moves s .stop s
  | stop : s.stopped = false →
      Moves s .stop { s with stopped := true, waiters := s.waiters.map Waiter.notify }
  | isStopped : Moves s .isStopped s
  | begin (thread : Nat) (deadline : Option Instant) : s.waiters[thread]? = some .idle →
      Moves s (.begin thread deadline)
        { s with waiters := s.waiters.set thread (.testing deadline) }
  | stopped (thread : Nat) (deadline : Option Instant) :
      s.waiters[thread]? = some (.testing deadline) → s.stopped = true →
      Moves s (.test thread) { s with waiters := s.waiters.set thread (.returned deadline true) }
  | reached (thread : Nat) (deadline : Option Instant) :
      s.waiters[thread]? = some (.testing deadline) → s.stopped = false →
      (∃ d, deadline = some d ∧ d ≤ s.now) →
      Moves s (.test thread) { s with waiters := s.waiters.set thread (.returned deadline false) }
  | park (thread : Nat) (deadline : Option Instant) :
      s.waiters[thread]? = some (.testing deadline) → s.stopped = false →
      (∀ d, deadline = some d → ¬ d ≤ s.now) →
      Moves s (.test thread) { s with waiters := s.waiters.set thread (.parked deadline false) }
  | wake (thread : Nat) (deadline : Option Instant) (notified : Bool) :
      s.waiters[thread]? = some (.parked deadline notified) →
      Moves s (.wake thread) { s with waiters := s.waiters.set thread (.testing deadline) }
  | forget (thread : Nat) (deadline : Option Instant) (result : Bool) :
      s.waiters[thread]? = some (.returned deadline result) →
      Moves s (.forget thread) { s with waiters := s.waiters.set thread .idle }
  | tick (now : Instant) : s.now ≤ now → Moves s (.tick now) { s with now := now }

section Steps

variable {s t : Scene} {step : Step} {thread : Nat}

theorem Scene.update_eq_some_iff {f : Waiter → Option Waiter} :
    s.update thread f = some t ↔ ∃ w w', s.waiters[thread]? = some w ∧ f w = some w' ∧
      t = { s with waiters := s.waiters.set thread w' } := by
  simp only [Scene.update, Option.bind_eq_bind, Option.bind_eq_some_iff, Option.pure_def,
    Option.some.injEq, eq_comm (b := t), exists_and_left]

/-- A test ends the wait by the flag, or else by the deadline, or else parks the thread. -/
theorem Waiter.test_eq_some {stopped : Bool} {now : Instant} {w w' : Waiter}
    (tested : w.test stopped now = some w') : ∃ deadline, w = .testing deadline ∧
      (stopped = true ∧ w' = .returned deadline true ∨
        stopped = false ∧ (∃ d, deadline = some d ∧ d ≤ now) ∧ w' = .returned deadline false ∨
        stopped = false ∧ (∀ d, deadline = some d → ¬ d ≤ now) ∧ w' = .parked deadline false) := by
  cases w with
  | testing deadline =>
    refine ⟨deadline, rfl, ?_⟩
    cases stopped with
    | true =>
      cases tested
      exact .inl ⟨rfl, rfl⟩
    | false =>
      cases deadline with
      | none =>
        cases tested
        exact .inr (.inr ⟨rfl, nofun, rfl⟩)
      | some d =>
        simp only [test, wait, Bool.false_eq_true, if_false] at tested
        by_cases late : d ≤ now
        · rw [if_pos late] at tested
          cases tested
          exact .inr (.inl ⟨rfl, ⟨d, rfl, late⟩, rfl⟩)
        · rw [if_neg late] at tested
          cases tested
          refine .inr (.inr ⟨rfl, ?_, rfl⟩)
          rintro _ ⟨⟩
          exact late
  | idle | parked | returned => cases tested

theorem Scene.moves_of_step? (stepped : s.step? step = some t) : s.Moves step t := by
  cases step with
  | stop =>
    simp only [Scene.step?] at stepped
    split at stepped
    · rename_i set
      cases stepped
      exact .again set
    · rename_i unset
      cases stepped
      exact .stop (Bool.eq_false_iff.2 unset)
  | isStopped =>
    cases stepped
    exact .isStopped
  | begin thread deadline =>
    obtain ⟨w, w', at_thread, begun, rfl⟩ := Scene.update_eq_some_iff.1 stepped
    cases w with
    | idle =>
      cases begun
      exact .begin thread deadline at_thread
    | testing | parked | returned => cases begun
  | test thread =>
    obtain ⟨w, w', at_thread, tested, rfl⟩ := Scene.update_eq_some_iff.1 stepped
    obtain ⟨deadline, rfl, h⟩ := Waiter.test_eq_some tested
    rcases h with ⟨set, rfl⟩ | ⟨unset, late, rfl⟩ | ⟨unset, early, rfl⟩
    · exact .stopped thread deadline at_thread set
    · exact .reached thread deadline at_thread unset late
    · exact .park thread deadline at_thread unset early
  | wake thread =>
    obtain ⟨w, w', at_thread, woken, rfl⟩ := Scene.update_eq_some_iff.1 stepped
    cases w with
    | parked deadline notified =>
      cases woken
      exact .wake thread deadline notified at_thread
    | idle | testing | returned => cases woken
  | forget thread =>
    obtain ⟨w, w', at_thread, forgotten, rfl⟩ := Scene.update_eq_some_iff.1 stepped
    cases w with
    | returned deadline result =>
      cases forgotten
      exact .forget thread deadline result at_thread
    | idle | testing | parked => cases forgotten
  | tick now =>
    simp only [Scene.step?] at stepped
    split at stepped
    · rename_i later
      cases stepped
      exact .tick now later
    · cases stepped

end Steps

/-- A parked thread has a notification on its way just if the flag is set. -/
def Scene.Informed (s : Scene) : Prop :=
  ∀ deadline notified, .parked deadline notified ∈ s.waiters → notified = s.stopped

section Notifications

variable {s t : Scene} {step : Step}

theorem Scene.Informed.set {w : Waiter} (h : s.Informed)
    (own : ∀ deadline notified, w = .parked deadline notified → notified = s.stopped)
    (thread : Nat) : Scene.Informed { s with waiters := s.waiters.set thread w } := by
  intro deadline notified member
  rcases List.mem_or_eq_of_mem_set member with before | same
  · exact h deadline notified before
  · exact own deadline notified same.symm

theorem Scene.Moves.informed (move : s.Moves step t) (h : s.Informed) : t.Informed := by
  cases move with
  | again | isStopped => exact h
  | tick => exact h
  | stop =>
    intro deadline notified member
    obtain ⟨w, -, notify⟩ := List.mem_map.1 member
    cases w <;> cases notify
    rfl
  | park thread deadline _ unset =>
    refine h.set ?_ thread
    rintro _ _ ⟨⟩
    exact unset.symm
  | begin thread | stopped thread | reached thread | wake thread | forget thread =>
    refine h.set (fun _ _ same => ?_) thread
    cases same

theorem informed_of_reachable (reached : Reachable s) : s.Informed := by
  induction reached with
  | fresh now threads =>
    intro deadline notified member
    cases List.eq_of_mem_replicate member
  | next step _ stepped ih => exact (Scene.moves_of_step? stepped).informed ih

theorem Scene.Moves.stopped_mono (move : s.Moves step t) (set : s.stopped = true) :
    t.stopped = true := by
  cases move with
  | stop => rfl
  | _ => exact set

end Notifications

def Waiter.deadline? : Waiter → Option (Option Instant)
  | .idle => none
  | .testing deadline | .parked deadline _ | .returned deadline _ => some deadline

def Scene.deadline? (s : Scene) (thread : Nat) : Option (Option Instant) :=
  s.waiters[thread]?.bind Waiter.deadline?

def Scene.replay? (s : Scene) (steps : List Step) : Option Scene := steps.foldlM Scene.step? s

section Calls

variable {s t : Scene} {step : Step} {steps : List Step} {thread : Nat} {deadline : Option Instant}

theorem Scene.replay?_cons :
    s.replay? (step :: steps) = some t ↔ ∃ u, s.step? step = some u ∧ u.replay? steps = some t := by
  rw [replay?, List.foldlM_cons]
  exact Option.bind_eq_some_iff

theorem Scene.replay?_append {more : List Step} : s.replay? (steps ++ more) = some t ↔
    ∃ u, s.replay? steps = some u ∧ u.replay? more = some t := by
  rw [replay?, List.foldlM_append]
  exact Option.bind_eq_some_iff

theorem Scene.replay?_induction {P : Scene → Prop}
    (keeps : ∀ step ∈ steps, ∀ u v : Scene, u.step? step = some v → P u → P v)
    (played : s.replay? steps = some t) (start : P s) : P t := by
  induction steps generalizing s with
  | nil =>
    cases played
    exact start
  | cons step rest ih =>
    obtain ⟨u, stepped, onward⟩ := Scene.replay?_cons.1 played
    obtain ⟨first, later⟩ := List.forall_mem_cons.1 keeps
    exact ih later onward (first s u stepped start)

theorem reachable_replay? (played : s.replay? steps = some t) (reached : Reachable s) :
    Reachable t :=
  Scene.replay?_induction (fun step _ _ _ stepped before => before.next step stepped) played
    reached

theorem stopped_of_replay? (played : s.replay? steps = some t) (set : s.stopped = true) :
    t.stopped = true :=
  Scene.replay?_induction (P := fun u => u.stopped = true)
    (fun _ _ _ _ stepped => (Scene.moves_of_step? stepped).stopped_mono) played set

theorem Scene.deadline?_set {w : Waiter} {other : Nat} (w' : Waiter)
    (at_other : s.waiters[other]? = some w) :
    Scene.deadline? { s with waiters := s.waiters.set other w' } thread =
      if other = thread then w'.deadline? else s.deadline? thread := by
  by_cases same : other = thread
  · cases same
    rw [if_pos rfl, deadline?, getElem?_set_of_some w' at_other]
    rfl
  · rw [if_neg same, deadline?, List.getElem?_set_ne same]
    rfl

theorem Scene.Moves.deadline? (move : s.Moves step t) (keeps : step ≠ .forget thread)
    (calling : s.deadline? thread = some deadline) : t.deadline? thread = some deadline := by
  have own : ∀ {other w}, s.waiters[other]? = some w → other = thread →
      w.deadline? = some deadline := by
    rintro _ w at_other rfl
    rwa [Scene.deadline?, at_other] at calling
  cases move with
  | again | isStopped => exact calling
  | tick => exact calling
  | stop =>
    have kept : ∀ w : Waiter, w.notify.deadline? = w.deadline? := fun w => by
      cases w <;> rfl
    simp only [Scene.deadline?, List.getElem?_map, Option.bind_map, Function.comp_def, kept]
    exact calling
  | begin other _ at_other =>
    rw [Scene.deadline?_set _ at_other]
    split
    · rename_i same
      cases own at_other same
    · exact calling
  | forget other _ _ at_other =>
    rw [Scene.deadline?_set _ at_other]
    split
    · rename_i same
      exact absurd (congrArg Step.forget same) keeps
    · exact calling
  | stopped other _ at_other | reached other _ at_other | park other _ at_other
  | wake other _ _ at_other =>
    rw [Scene.deadline?_set _ at_other]
    split
    · rename_i same
      have before := own at_other same
      exact before
    · exact calling

theorem deadline?_replay? (played : s.replay? steps = some t) (keeps : .forget thread ∉ steps)
    (calling : s.deadline? thread = some deadline) : t.deadline? thread = some deadline := by
  refine Scene.replay?_induction (P := fun u => u.deadline? thread = some deadline) ?_ played
    calling
  intro step member u v stepped
  exact (Scene.moves_of_step? stepped).deadline? fun same => keeps (same ▸ member)

/-- A test in a call, with the call's deadline: the thread returns the flag as it is, unset only
when the deadline is reached, or it parks because there is nothing to return for. -/
theorem tested_in_call
    (played : s.replay? (.begin thread deadline :: steps ++ [.test thread]) = some t)
    (keeps : .forget thread ∉ steps) :
    t.waiters[thread]? = some (.returned deadline t.stopped) ∧
        (t.stopped = false → ∃ d, deadline = some d ∧ d ≤ t.now) ∨
      t.waiters[thread]? = some (.parked deadline false) ∧ t.stopped = false ∧
        ∀ d, deadline = some d → ¬ d ≤ t.now := by
  obtain ⟨v, onward, last⟩ := Scene.replay?_append.1 played
  obtain ⟨u, begun, during⟩ := Scene.replay?_cons.1 onward
  obtain ⟨w, tested, none_⟩ := Scene.replay?_cons.1 last
  cases none_
  have began : u.deadline? thread = some deadline := by
    cases Scene.moves_of_step? begun with
    | begin _ _ at_thread =>
      rw [Scene.deadline?_set _ at_thread, if_pos rfl]
      rfl
  have calling := deadline?_replay? during keeps began
  have own : ∀ {d}, v.waiters[thread]? = some (.testing d) → d = deadline := fun at_thread => by
    rw [Scene.deadline?, at_thread] at calling
    cases calling
    rfl
  cases Scene.moves_of_step? tested with
  | stopped _ d at_thread set =>
    cases own at_thread
    dsimp only
    rw [getElem?_set_of_some _ at_thread, set]
    exact .inl ⟨rfl, nofun⟩
  | reached _ d at_thread unset late =>
    cases own at_thread
    dsimp only
    rw [getElem?_set_of_some _ at_thread, unset]
    exact .inl ⟨rfl, fun _ => late⟩
  | park _ d at_thread unset early =>
    cases own at_thread
    exact .inr ⟨getElem?_set_of_some _ at_thread, unset, early⟩

-- Every other step leaves a thread where it is or takes it to a place that is no return.
theorem Scene.Moves.returned {answer : Bool} (move : s.Moves step t)
    (after : t.waiters[thread]? = some (.returned deadline answer))
    (before : s.waiters[thread]? ≠ some (.returned deadline answer)) :
    s.waiters[thread]? = some (.testing deadline) ∧ answer = t.stopped ∧
      (answer = false → ∃ d, deadline = some d ∧ d ≤ t.now) := by
  have own : ∀ {other w w'}, s.waiters[other]? = some w →
      (s.waiters.set other w')[thread]? = some (.returned deadline answer) →
      other = thread ∧ w' = .returned deadline answer := fun {other w w'} at_other placed => by
    by_cases same : other = thread
    · cases same
      rw [getElem?_set_of_some w' at_other] at placed
      exact ⟨rfl, Option.some.inj placed⟩
    · rw [List.getElem?_set_ne same] at placed
      exact absurd placed before
  cases move with
  | again | isStopped => exact absurd after before
  | tick => exact absurd after before
  | stop =>
    rw [List.getElem?_map, Option.map_eq_some_iff] at after
    obtain ⟨w, at_thread, notify⟩ := after
    cases w <;> cases notify
    exact absurd at_thread before
  | stopped other d at_other set =>
    obtain ⟨rfl, ends⟩ := own at_other after
    cases ends
    exact ⟨at_other, set.symm, nofun⟩
  | reached other d at_other unset late =>
    obtain ⟨rfl, ends⟩ := own at_other after
    cases ends
    exact ⟨at_other, unset.symm, fun _ => late⟩
  | begin other _ at_other | park other _ at_other | wake other _ _ at_other
  | forget other _ _ at_other =>
    obtain ⟨-, ends⟩ := own at_other after
    cases ends

theorem exists_stop (s : Scene) : ∃ t, s.step? .stop = some t ∧ t.stopped = true := by
  simp only [Scene.step?]
  split
  · rename_i set
    exact ⟨s, rfl, set⟩
  · exact ⟨_, rfl, rfl⟩

-- Two steps of its own take a parked thread out of its call, whoever woke it.
theorem exists_return {notified : Bool} (set : s.stopped = true)
    (at_thread : s.waiters[thread]? = some (.parked deadline notified)) :
    ∃ t, s.replay? [.wake thread, .test thread] = some t ∧
      t.waiters[thread]? = some (.returned deadline true) := by
  let u : Scene := { s with waiters := s.waiters.set thread (.testing deadline) }
  have woken : s.step? (.wake thread) = some u :=
    Scene.update_eq_some_iff.2 ⟨_, _, at_thread, rfl, rfl⟩
  have awake : u.waiters[thread]? = some (.testing deadline) := getElem?_set_of_some _ at_thread
  have ends : Waiter.test s.stopped s.now (.testing deadline) = some (.returned deadline true) := by
    rw [set]
    rfl
  have tested : u.step? (.test thread) = some _ :=
    Scene.update_eq_some_iff.2 ⟨_, _, awake, ends, rfl⟩
  exact ⟨_, Scene.replay?_cons.2 ⟨u, woken, Scene.replay?_cons.2 ⟨_, tested, rfl⟩⟩,
    getElem?_set_of_some _ awake⟩

end Calls

/-- What a signal promises to its threads. -/
structure Promised (s : Scene) : Prop where
  /-- Nobody is parked while the flag is set, unless a notification is on its way. -/
  informed : s.Informed
  stops : ∃ t, s.step? .stop = some t ∧ t.stopped = true
  stays : ∀ steps t, s.replay? steps = some t → s.stopped = true → t.stopped = true
  /-- A call that begins here returns the flag as it is then, and returns at all only when the flag
  is set or its deadline is reached. -/
  answers : ∀ thread deadline steps t,
    s.replay? (.begin thread deadline :: steps ++ [.test thread]) = some t →
    .forget thread ∉ steps →
    t.waiters[thread]? = some (.returned deadline t.stopped) ∧
        (t.stopped = false → ∃ d, deadline = some d ∧ d ≤ t.now) ∨
      t.waiters[thread]? = some (.parked deadline false) ∧ t.stopped = false ∧
        ∀ d, deadline = some d → ¬ d ≤ t.now
  /-- Whatever step makes a thread return, the thread was at a test, its answer is the flag, and it
  answers that the flag is unset only with a deadline that the clock has reached. -/
  returned : ∀ step t, s.step? step = some t →
    ∀ (thread : Nat) (deadline : Option Instant) (answer : Bool),
    t.waiters[thread]? = some (.returned deadline answer) →
    s.waiters[thread]? ≠ some (.returned deadline answer) →
    s.waiters[thread]? = some (.testing deadline) ∧ answer = t.stopped ∧
      (answer = false → ∃ d, deadline = some d ∧ d ≤ t.now)
  /-- While the flag is set, a parked thread that wakes returns from its call at once. -/
  returns : s.stopped = true → ∀ (thread : Nat) (deadline : Option Instant) (notified : Bool),
    s.waiters[thread]? = some (.parked deadline notified) →
    ∃ t, s.replay? [.wake thread, .test thread] = some t ∧
      t.waiters[thread]? = some (.returned deadline true)

/-- **No wake-up is lost.** Whatever threads stop the signal and wait on it, in any order, with
threads that wake for no reason: no thread sleeps through a stop, and each wait returns what the
flag is. -/
theorem signal_keeps_promises {s : Scene} (reached : Reachable s) : Promised s where
  informed := informed_of_reachable reached
  stops := exists_stop s
  stays _ _ played set := stopped_of_replay? played set
  answers _ _ _ _ played keeps := tested_in_call played keeps
  returned _ _ stepped _ _ _ := (Scene.moves_of_step? stepped).returned
  returns set _ _ _ at_thread := exists_return set at_thread

-- One thread sleeps without a deadline; the other one's deadline passes before the stop, and it
-- tests behind it.
theorem signal_keeps_promises_late_test : ∃ s t : Scene,
    Scene.replay? ⟨false, .origin, [.idle, .idle]⟩ [.begin 0 none, .test 0] = some s ∧
    Promised s ∧
    s.replay? (.begin 1 (some ⟨5, by decide⟩) :: [.tick ⟨9, by decide⟩, .stop] ++ [.test 1]) =
      some t ∧
    t.waiters = [.parked none true, .returned (some ⟨5, by decide⟩) true] ∧ Promised t := by
  have first : Scene.replay? ⟨false, .origin, [.idle, .idle]⟩ [.begin 0 none, .test 0] =
      some ⟨false, .origin, [.parked none false, .idle]⟩ := by decide
  have second : Scene.replay? ⟨false, .origin, [.parked none false, .idle]⟩
      (.begin 1 (some ⟨5, by decide⟩) :: [.tick ⟨9, by decide⟩, .stop] ++ [.test 1]) =
      some ⟨true, ⟨9, by decide⟩, [.parked none true, .returned (some ⟨5, by decide⟩) true]⟩ := by
    decide
  have reached := reachable_replay? first (.fresh .origin 2)
  exact ⟨_, _, first, signal_keeps_promises reached, second, rfl,
    signal_keeps_promises (reachable_replay? second reached)⟩

end BurstProfiler.StopSignal
