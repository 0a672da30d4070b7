import BurstProfiler.Proofs.Handshake.Ownership

/-! What holds of every scene that can be reached: the slot stands as the stage of the capture has
it, threads that have exited have no signals, and each stack that was answered is vouched for. -/

set_option autoImplicit false

namespace BurstProfiler.Stack.Handshake

/-- A thread has no signal to handle and handles none. -/
structure Silent (pending : List ThreadId) (runs : List HandlerRun) (thread : ThreadId) :
    Prop where
  pending : thread ∉ pending
  finished : ∀ (i : Nat) (r : HandlerRun), runs[i]? = some r → r.thread = thread →
    r.stage = .finished

/-- An answer with a stack is the stack of one run, which claimed the slot in that capture. -/
def Vouched (runs : List HandlerRun) (a : Answer) : Prop :=
  ∀ cells, a.result = .stack cells → ∃ (i : Nat) (r : HandlerRun), runs[i]? = some r ∧
    r.stage = .finished ∧ r.thread = a.target ∧ r.claimed = some a.capture ∧ cells = r.cells i

/-- The slot as the capture's stage has it. -/
def Scene.FitsStage (s : Scene) : Stage → Prop
  | .idle => Quiet s.slot s.runs
  | .clearing target => target ≠ disarmed ∧ Quiet s.slot s.runs
  | .arming target => target ≠ disarmed ∧ Quiet s.slot s.runs ∧ s.slot.done = false
  | .sending target | .polling target =>
    target ≠ disarmed ∧ Contested s.slot s.runs s.captures target
  | .failing target => target ≠ disarmed ∧ Contested s.slot s.runs s.captures target ∧
    Silent s.pending s.runs target
  | .measuring target => ∃ i r, Delivered s.slot s.runs s.captures target i r
  | .copying target depth copied => ∃ i r, Delivered s.slot s.runs s.captures target i r ∧
    depth = r.stack.length ∧ copied.length ≤ depth ∧ copied = (r.cells i).take copied.length

structure Scene.Sound (s : Scene) : Prop where
  stage : s.FitsStage s.stage
  runs : ∀ (i : Nat) (r : HandlerRun), s.runs[i]? = some r →
    r.thread ≠ disarmed ∧ r.stack.length ≤ maxDepth
  pending : ∀ thread ∈ s.pending, thread ≠ disarmed
  exited : ∀ thread ∈ s.exited, Silent s.pending s.runs thread
  answers : ∀ a ∈ s.answers, Vouched s.runs a

theorem Scene.sound_fresh : Sound .fresh := ⟨⟨rfl, nofun⟩, nofun, nofun, nofun, nofun⟩

section Runs

variable {slot slot' : Slot} {runs runs' : List HandlerRun} {captures index : Nat}
  {r r' : HandlerRun}

theorem Vouched.keep {a : Answer} (h : Vouched runs a) (keeps : Keeps runs runs') :
    Vouched runs' a := by
  intro cells stack
  obtain ⟨i, r, place, finished, vouched⟩ := h cells stack
  exact ⟨i, r, keeps.stays i r place (.inr finished), finished, vouched⟩

theorem Vouched.advance {a : Answer} (h : Vouched runs a) (at_index : runs[index]? = some r)
    (step : RunStep slot captures index r slot' r') : Vouched (runs.set index r') a := by
  intro cells stack
  obtain ⟨i, q, place, finished, vouched⟩ := h cells stack
  refine ⟨i, q, ?_, finished, vouched⟩
  by_cases same : index = i
  · obtain rfl := same
    obtain rfl : r = q := Option.some.inj (at_index.symm.trans place)
    rw [step.of_finished finished, getElem?_set_of_some r place]
  · rw [List.getElem?_set_ne same]
    exact place

theorem Silent.advance {pending : List ThreadId} {thread : ThreadId}
    (h : Silent pending runs thread) (at_index : runs[index]? = some r)
    (step : RunStep slot captures index r slot' r') :
    Silent pending (runs.set index r') thread := by
  refine ⟨h.pending, fun i q place same => ?_⟩
  rcases getElem?_set_eq_some place with ⟨-, rfl⟩ | ⟨-, before⟩
  · have finished := h.finished index r at_index (step.thread.symm.trans same)
    rw [step.of_finished finished]
    exact finished
  · exact h.finished i q before same

theorem Silent.handle {pending : List ThreadId} {thread other : ThreadId}
    (h : Silent pending runs thread) (waits : other ∈ pending) (stack : List UInt64) :
    Silent (pending.erase other) (runs ++ [⟨other, stack, .entered, none⟩]) thread := by
  refine ⟨fun member => h.pending (List.mem_of_mem_erase member), fun i q place same => ?_⟩
  rcases getElem?_concat_eq_some place with before | ⟨-, rfl⟩
  · exact h.finished i q before same
  · exact absurd (same ▸ waits) h.pending

theorem Silent.mono {pending pending' : List ThreadId} {thread : ThreadId}
    (h : Silent pending runs thread) (fewer : pending' ⊆ pending) : Silent pending' runs thread :=
  ⟨fun member => h.pending (fewer member), h.finished⟩

-- Behind a thread that handles nothing no handler run is at work on the slot.
theorem Contested.unowned_of_silent {pending : List ThreadId} {target : ThreadId}
    (h : Contested slot runs captures target) (silent : Silent pending runs target) :
    Unowned runs := by
  cases h with
  | unclaimed h => exact h.unowned
  | delivered i r h => exact h.unowned
  | taken i r h =>
    have progress := h.progress
    unfold HandlerRun.Progress at progress
    rw [silent.finished i r h.run h.thread] at progress
    cases progress

theorem Contested.unowned_of_armed {target : ThreadId} (h : Contested slot runs captures target)
    (known : target ≠ disarmed) (armed : slot.armed = target) : Unowned runs := by
  cases h with
  | unclaimed h => exact h.unowned
  | taken i r h => exact absurd (armed.symm.trans h.shut) known
  | delivered i r h => exact absurd (armed.symm.trans h.shut) known

theorem Contested.exists_delivered {target : ThreadId} (h : Contested slot runs captures target)
    (done : slot.done = true) : ∃ i r, Delivered slot runs captures target i r := by
  cases h with
  | unclaimed h => cases h.cleared.symm.trans done
  | taken i r h => cases h.cleared.symm.trans done
  | delivered i r h => exact ⟨i, r, h⟩

end Runs

namespace Scene

variable {s t : Scene}

theorem finished_of_isFree {thread : ThreadId} (free : s.isFree thread = true) (i : Nat)
    (r : HandlerRun) (place : s.runs[i]? = some r) (same : r.thread = thread) :
    r.stage = .finished := by
  have all := List.all_eq_true.1 free r (List.mem_of_getElem? place)
  simpa [same] using all

-- What becomes of the signals and of runs that do not concern the slot is all the same to it.
theorem FitsStage.keep {stage : Stage} (h : s.FitsStage stage) {runs : List HandlerRun}
    {pending exited : List ThreadId} (keeps : Keeps s.runs runs)
    (silent : ∀ thread, Silent s.pending s.runs thread → Silent pending runs thread) :
    FitsStage { s with runs := runs, pending := pending, exited := exited } stage := by
  cases stage with
  | idle => exact Quiet.keep h keeps
  | clearing target => exact ⟨h.1, h.2.keep keeps⟩
  | arming target => exact ⟨h.1, h.2.1.keep keeps, h.2.2⟩
  | sending target | polling target => exact ⟨h.1, h.2.keep keeps⟩
  | failing target => exact ⟨h.1, h.2.1.keep keeps, silent target h.2.2⟩
  | measuring target =>
    obtain ⟨i, r, delivered⟩ := h
    exact ⟨i, r, delivered.keep keeps⟩
  | copying target depth copied =>
    obtain ⟨i, r, delivered, copy⟩ := h
    exact ⟨i, r, delivered.keep keeps, copy⟩

theorem FitsStage.advance {stage : Stage} (h : s.FitsStage stage) {index : Nat}
    {r r' : HandlerRun} {slot : Slot} (at_index : s.runs[index]? = some r)
    (known : r.thread ≠ disarmed) (short : r.stack.length ≤ maxDepth)
    (step : RunStep s.slot s.captures index r slot r') :
    FitsStage { s with slot := slot, runs := s.runs.set index r' } stage := by
  cases stage with
  | idle =>
    obtain ⟨rfl, keeps⟩ := Quiet.advance h at_index known step
    exact Quiet.keep h keeps
  | clearing target =>
    obtain ⟨rfl, keeps⟩ := h.2.advance at_index known step
    exact ⟨h.1, h.2.keep keeps⟩
  | arming target =>
    obtain ⟨rfl, keeps⟩ := h.2.1.advance at_index known step
    exact ⟨h.1, h.2.1.keep keeps, h.2.2⟩
  | sending target | polling target => exact ⟨h.1, h.2.advance at_index known short step⟩
  | failing target =>
    exact ⟨h.1, h.2.1.advance at_index known short step, h.2.2.advance at_index step⟩
  | measuring target =>
    obtain ⟨i, q, delivered⟩ := h
    obtain ⟨rfl, keeps⟩ := delivered.advance at_index known step
    exact ⟨i, q, delivered.keep keeps⟩
  | copying target depth copied =>
    obtain ⟨i, q, delivered, copy⟩ := h
    obtain ⟨rfl, keeps⟩ := delivered.advance at_index known step
    exact ⟨i, q, delivered.keep keeps, copy⟩

theorem Sound.answer (h : s.Sound) {slot : Slot} (quiet : Quiet slot s.runs) {target : ThreadId}
    {result : Result} (vouched : Vouched s.runs ⟨s.captures, target, result⟩) :
    Sound (answer { s with slot := slot } target result) := by
  refine ⟨quiet, h.runs, h.pending, h.exited, fun a member => ?_⟩
  rcases List.mem_append.1 member with earlier | last
  · exact h.answers a earlier
  · obtain rfl := List.mem_singleton.1 last
    exact vouched

namespace Sound

theorem queued {target : ThreadId} (h : s.Sound) (at_stage : s.stage = .sending target)
    (present : target ∉ s.exited) :
    Sound { s with stage := .polling target, pending := s.pending ++ [target] } := by
  have stage := h.stage
  rw [at_stage] at stage
  refine ⟨stage, h.runs, fun thread member => ?_, fun thread gone => ?_, h.answers⟩
  · rcases List.mem_append.1 member with earlier | last
    · exact h.pending thread earlier
    · obtain rfl := List.mem_singleton.1 last
      exact stage.1
  · refine ⟨fun member => ?_, (h.exited thread gone).finished⟩
    rcases List.mem_append.1 member with earlier | last
    · exact (h.exited thread gone).pending earlier
    · obtain rfl := List.mem_singleton.1 last
      exact present gone

theorem measure {target : ThreadId} (h : s.Sound) (at_stage : s.stage = .measuring target) :
    Sound { s with stage := .copying target (min s.slot.depth maxDepth) [] } := by
  have stage := h.stage
  rw [at_stage] at stage
  obtain ⟨i, r, delivered⟩ := stage
  have short := (h.runs i r delivered.run).2
  refine ⟨⟨i, r, delivered, ?_, Nat.zero_le _, rfl⟩, h.runs, h.pending, h.exited, h.answers⟩
  rw [delivered.depth]
  exact Nat.min_eq_left short

theorem copy {target : ThreadId} {depth : Nat} {copied : List Cell} (h : s.Sound)
    (at_stage : s.stage = .copying target depth copied) (more : copied.length < depth) :
    Sound { s with
      stage := .copying target depth (copied ++ (s.slot.cells[copied.length]?).toList) } := by
  have stage := h.stage
  rw [at_stage] at stage
  obtain ⟨i, r, delivered, rfl, -, copy⟩ := stage
  have next : copied ++ (s.slot.cells[copied.length]?).toList =
      (r.cells i).take (copied.length + 1) := by
    rw [List.take_add_one, ← copy, delivered.cells copied.length more]
  have length : ((r.cells i).take (copied.length + 1)).length = copied.length + 1 := by
    rw [List.length_take, HandlerRun.cells, List.length_map]
    omega
  refine ⟨?_, h.runs, h.pending, h.exited, h.answers⟩
  show Scene.FitsStage _ (.copying target r.stack.length (copied ++ _))
  rw [next]
  refine ⟨i, r, delivered, rfl, ?_, ?_⟩
  · rw [length]
    exact more
  · rw [length]

theorem collect {target : ThreadId} {depth : Nat} {copied : List Cell} (h : s.Sound)
    (at_stage : s.stage = .copying target depth copied) (through : depth ≤ copied.length) :
    (s.answer target (.stack copied)).Sound := by
  have stage := h.stage
  rw [at_stage] at stage
  obtain ⟨i, r, delivered, rfl, within, copy⟩ := stage
  have whole : copied = r.cells i := by
    rw [copy]
    apply List.take_of_length_le
    rw [HandlerRun.cells, List.length_map]
    exact through
  refine h.answer ⟨delivered.shut, delivered.unowned⟩ fun cells stack => ?_
  cases stack
  exact ⟨i, r, delivered.run, delivered.finished, delivered.thread, delivered.claimed, whole⟩

theorem handle {thread : ThreadId} {stack : List UInt64} (h : s.Sound)
    (waits : thread ∈ s.pending) (short : stack.length ≤ maxDepth) :
    Sound { s with
      pending := s.pending.erase thread
      runs := s.runs ++ [⟨thread, stack, .entered, none⟩] } := by
  have keeps : Keeps s.runs (s.runs ++ [⟨thread, stack, .entered, none⟩]) := keeps_append rfl
  refine ⟨h.stage.keep keeps fun _ silent => silent.handle waits stack, fun i r place => ?_,
    fun other member => h.pending other (List.mem_of_mem_erase member),
    fun other gone => (h.exited other gone).handle waits stack,
    fun a member => (h.answers a member).keep keeps⟩
  rcases getElem?_concat_eq_some place with before | ⟨-, rfl⟩
  · exact h.runs i r before
  · exact ⟨h.pending thread waits, short⟩

theorem advance {index : Nat} {r r' : HandlerRun} {slot : Slot} (h : s.Sound)
    (at_index : s.runs[index]? = some r) (step : RunStep s.slot s.captures index r slot r') :
    Sound { s with slot := slot, runs := s.runs.set index r' } := by
  obtain ⟨known, short⟩ := h.runs index r at_index
  refine ⟨h.stage.advance at_index known short step, fun i q place => ?_, h.pending,
    fun thread gone => (h.exited thread gone).advance at_index step, fun a member => ?_⟩
  · rcases getElem?_set_eq_some place with ⟨-, rfl⟩ | ⟨-, before⟩
    · rw [step.thread, step.stack]
      exact ⟨known, short⟩
    · exact h.runs i q before
  · exact (h.answers a member).advance at_index step

theorem exit {thread : ThreadId} (h : s.Sound) (free : s.isFree thread = true) :
    Sound { s with
      exited := thread :: s.exited
      pending := s.pending.filter (· != thread) } := by
  have fewer : s.pending.filter (· != thread) ⊆ s.pending :=
    fun _ member => (List.mem_filter.1 member).1
  refine ⟨h.stage.keep (.refl s.runs) fun _ silent => silent.mono fewer, h.runs,
    fun other member => h.pending other (fewer member), fun other gone => ?_, h.answers⟩
  rcases List.mem_cons.1 gone with rfl | earlier
  · refine ⟨fun member => ?_, finished_of_isFree free⟩
    have contrary := (List.mem_filter.1 member).2
    simp at contrary
  · exact (h.exited other earlier).mono fewer

theorem step {step : Step} (h : s.Sound) (move : s.Moves step t) : t.Sound := by
  have stage := h.stage
  cases move with
  | reset target at_stage known =>
    rw [at_stage] at stage
    exact ⟨⟨known, stage.shut, stage.unowned⟩, h.runs, h.pending, h.exited, h.answers⟩
  | clear target at_stage =>
    rw [at_stage] at stage
    obtain ⟨known, quiet⟩ := stage
    exact ⟨⟨known, ⟨quiet.shut, quiet.unowned⟩, rfl⟩, h.runs, h.pending, h.exited, h.answers⟩
  | arm target at_stage =>
    rw [at_stage] at stage
    obtain ⟨known, quiet, cleared⟩ := stage
    exact ⟨⟨known, .unclaimed ⟨rfl, cleared, quiet.unowned⟩⟩, h.runs, h.pending, h.exited,
      h.answers⟩
  | queued target at_stage present => exact h.queued at_stage present
  | merged target at_stage waits =>
    rw [at_stage] at stage
    exact ⟨stage, h.runs, h.pending, h.exited, h.answers⟩
  | refused target at_stage gone =>
    rw [at_stage] at stage
    exact ⟨⟨stage.1, stage.2, h.exited target gone⟩, h.runs, h.pending, h.exited, h.answers⟩
  | disarm target at_stage =>
    rw [at_stage] at stage
    obtain ⟨-, contested, silent⟩ := stage
    exact h.answer ⟨rfl, contested.unowned_of_silent silent⟩ nofun
  | done target at_stage done =>
    rw [at_stage] at stage
    exact ⟨stage.2.exists_delivered done, h.runs, h.pending, h.exited, h.answers⟩
  | undone target at_stage undone => exact h
  | timedOut target at_stage armed =>
    rw [at_stage] at stage
    obtain ⟨known, contested⟩ := stage
    exact h.answer ⟨rfl, contested.unowned_of_armed known armed⟩ nofun
  | tooLate target at_stage taken => exact h
  | measure target at_stage => exact h.measure at_stage
  | copy target depth copied at_stage more => exact h.copy at_stage more
  | collect target depth copied at_stage through => exact h.collect at_stage through
  | handle thread stack waits free short => exact h.handle waits short
  | advance index r r' slot at_index step => exact h.advance at_index step
  | exit thread free => exact h.exit free
  | spawn thread =>
    refine ⟨stage, h.runs, h.pending, fun other gone => ?_, h.answers⟩
    exact h.exited other (List.mem_filter.1 gone).1

end Sound

end Scene

end BurstProfiler.Stack.Handshake
