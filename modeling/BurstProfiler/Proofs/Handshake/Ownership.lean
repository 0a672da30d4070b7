import BurstProfiler.Proofs.Handshake.Transitions
import BurstProfiler.Proofs.Places

/-! Who may write the slot. Between captures nobody owns it. Once a capture has armed it, it is
unclaimed, or one handler run of the target owns it, or that run has delivered its stack; which
of the three holds is seen from the slot alone. Signals that come late find it disarmed or armed
for another thread, so their handlers pass. -/

set_option autoImplicit false

namespace BurstProfiler.Stack.Handshake

def HandlerRun.cells (r : HandlerRun) (index : Nat) : List Cell :=
  r.stack.map (fun address => ⟨address, some index⟩)

/-- The first cells of the slot are as many of the given ones. -/
def Slot.Begins (slot : Slot) (cells : List Cell) (count : Nat) : Prop :=
  ∀ k < count, slot.cells[k]? = cells[k]?

def HandlerRun.Progress (r : HandlerRun) (index : Nat) (slot : Slot) : Prop :=
  match r.stage with
  | .writing written => written ≤ r.stack.length ∧ slot.Begins (r.cells index) written
  | .depthStored => slot.depth = r.stack.length ∧ slot.Begins (r.cells index) r.stack.length
  | .entered | .finished => False

section Slots

variable (slot : Slot) (runs : List HandlerRun) (captures : Nat)

def Unowned : Prop := ∀ (i : Nat) (r : HandlerRun), runs[i]? = some r → r.owns = false

/-- Nobody writes the slot, and no handler can claim it. -/
structure Quiet : Prop where
  shut : slot.armed = disarmed
  unowned : Unowned runs

structure Open (target : ThreadId) : Prop where
  armed : slot.armed = target
  cleared : slot.done = false
  unowned : Unowned runs

/-- A run of the handler on the target has claimed the slot in this capture. -/
structure ClaimedBy (target : ThreadId) (index : Nat) (r : HandlerRun) : Prop where
  shut : slot.armed = disarmed
  run : runs[index]? = some r
  thread : r.thread = target
  claimed : r.claimed = some captures

/-- It is the only one that owns the slot. -/
structure Taken (target : ThreadId) (index : Nat) (r : HandlerRun) : Prop extends
    ClaimedBy slot runs captures target index r where
  cleared : slot.done = false
  sole : ∀ (i : Nat) (q : HandlerRun), runs[i]? = some q → q.owns = true → i = index
  progress : r.Progress index slot

/-- It has written its stack and is through with the slot. -/
structure Delivered (target : ThreadId) (index : Nat) (r : HandlerRun) : Prop extends
    ClaimedBy slot runs captures target index r where
  unowned : Unowned runs
  finished : r.stage = .finished
  depth : slot.depth = r.stack.length
  cells : slot.Begins (r.cells index) r.stack.length

/-- What an armed slot comes to. -/
inductive Contested (target : ThreadId) : Prop where
  | unclaimed : Open slot runs target → Contested target
  | taken (index : Nat) (r : HandlerRun) :
      Taken slot runs captures target index r → Contested target
  | delivered (index : Nat) (r : HandlerRun) :
      Delivered slot runs captures target index r → Contested target

end Slots

/-- Owners of the slot and finished runs stay as they are, and no other run becomes an owner. -/
structure Keeps (runs runs' : List HandlerRun) : Prop where
  stays : ∀ (i : Nat) (r : HandlerRun), runs[i]? = some r → r.owns = true ∨ r.stage = .finished →
    runs'[i]? = some r
  owners : ∀ (i : Nat) (r : HandlerRun), runs'[i]? = some r → r.owns = true → runs[i]? = some r

section Kept

variable {slot slot' : Slot} {runs runs' : List HandlerRun} {captures index : Nat}
  {r r' : HandlerRun} {target : ThreadId}

theorem Unowned.keep (h : Unowned runs) (keeps : Keeps runs runs') : Unowned runs' := by
  intro i q place
  cases owns : q.owns with
  | false => rfl
  | true => exact owns.symm.trans (h i q (keeps.owners i q place owns))

theorem Quiet.keep (h : Quiet slot runs) (keeps : Keeps runs runs') : Quiet slot runs' :=
  ⟨h.shut, h.unowned.keep keeps⟩

theorem HandlerRun.Progress.owns (h : r.Progress index slot) : r.owns = true := by
  unfold HandlerRun.Progress at h
  cases at_stage : r.stage with
  | writing written => rw [HandlerRun.owns, at_stage]
  | depthStored => rw [HandlerRun.owns, at_stage]
  | entered | finished =>
    rw [at_stage] at h
    cases h

theorem Taken.keep (h : Taken slot runs captures target index r) (keeps : Keeps runs runs') :
    Taken slot runs' captures target index r :=
  ⟨⟨h.shut, keeps.stays index r h.run (.inl h.progress.owns), h.thread, h.claimed⟩, h.cleared,
    fun i q place owns => h.sole i q (keeps.owners i q place owns) owns, h.progress⟩

theorem Delivered.keep (h : Delivered slot runs captures target index r)
    (keeps : Keeps runs runs') : Delivered slot runs' captures target index r :=
  ⟨⟨h.shut, keeps.stays index r h.run (.inr h.finished), h.thread, h.claimed⟩,
    h.unowned.keep keeps, h.finished, h.depth, h.cells⟩

theorem Contested.keep (h : Contested slot runs captures target) (keeps : Keeps runs runs') :
    Contested slot runs' captures target := by
  cases h with
  | unclaimed h => exact .unclaimed ⟨h.armed, h.cleared, h.unowned.keep keeps⟩
  | taken index r h => exact .taken index r (h.keep keeps)
  | delivered index r h => exact .delivered index r (h.keep keeps)

theorem Keeps.refl (runs : List HandlerRun) : Keeps runs runs :=
  ⟨fun _ _ place _ => place, fun _ _ place _ => place⟩

theorem keeps_append (entered : r.stage = .entered) : Keeps runs (runs ++ [r]) := by
  refine ⟨fun i q place _ => ?_, fun i q place owns => ?_⟩
  · rw [List.getElem?_append_left (List.getElem?_eq_some_iff.1 place).1]
    exact place
  · rcases getElem?_concat_eq_some place with before | ⟨-, rfl⟩
    · exact before
    · unfold HandlerRun.owns at owns
      rw [entered] at owns
      cases owns

theorem keeps_set (at_index : runs[index]? = some r) (stands : r.owns = false) :
    Keeps runs (runs.set index { r with stage := .finished }) := by
  refine ⟨fun i q place still => ?_, fun i q place owns => ?_⟩
  · by_cases same : i = index
    · obtain rfl := same
      obtain rfl : r = q := Option.some.inj (at_index.symm.trans place)
      obtain owns | finished := still
      · cases stands.symm.trans owns
      · rw [← finished, getElem?_set_of_some r place]
    · rw [List.getElem?_set_ne (Ne.symm same)]
      exact place
  · rcases getElem?_set_eq_some place with ⟨rfl, rfl⟩ | ⟨-, before⟩
    · cases owns
    · exact before

end Kept

section Runs

variable {slot slot' : Slot} {runs : List HandlerRun} {captures index : Nat}
  {r r' : HandlerRun} {target : ThreadId}

theorem RunStep.thread (step : RunStep slot captures index r slot' r') :
    r'.thread = r.thread := by
  cases step <;> rfl

theorem RunStep.stack (step : RunStep slot captures index r slot' r') : r'.stack = r.stack := by
  cases step <;> rfl

theorem RunStep.of_finished (step : RunStep slot captures index r slot' r')
    (finished : r.stage = .finished) : r' = r := by
  cases step with
  | rest => rfl
  | claim at_stage | pass at_stage | write written address at_stage | storeDepth written at_stage
  | setDone at_stage =>
    rw [finished] at at_stage
    cases at_stage

theorem RunStep.of_owns_eq_false (step : RunStep slot captures index r slot' r')
    (stands : r.owns = false) :
    (slot.armed = r.thread ∧ slot' = { slot with armed := disarmed } ∧
      r' = { r with stage := .writing 0, claimed := some captures }) ∨
    (slot' = slot ∧ r' = { r with stage := .finished }) := by
  unfold HandlerRun.owns at stands
  cases step with
  | claim _ armed => exact .inl ⟨armed, rfl, rfl⟩
  | pass => exact .inr ⟨rfl, rfl⟩
  | rest finished =>
    refine .inr ⟨rfl, ?_⟩
    rw [← finished]
  | write written address at_stage | storeDepth written at_stage | setDone at_stage =>
    rw [at_stage] at stands
    cases stands

theorem RunStep.of_bystander (step : RunStep slot captures index r slot' r')
    (at_index : runs[index]? = some r) (stands : r.owns = false) (other : slot.armed ≠ r.thread) :
    slot' = slot ∧ Keeps runs (runs.set index r') := by
  rcases step.of_owns_eq_false stands with ⟨armed, -⟩ | ⟨same, rfl⟩
  · exact absurd armed other
  · exact ⟨same, keeps_set at_index stands⟩

theorem Quiet.advance (h : Quiet slot runs) (at_index : runs[index]? = some r)
    (known : r.thread ≠ disarmed) (step : RunStep slot captures index r slot' r') :
    slot' = slot ∧ Keeps runs (runs.set index r') :=
  step.of_bystander at_index (h.unowned index r at_index)
    (fun armed => known (armed.symm.trans h.shut))

theorem Delivered.advance {i : Nat} {q : HandlerRun} (h : Delivered slot runs captures target i q)
    (at_index : runs[index]? = some r) (known : r.thread ≠ disarmed)
    (step : RunStep slot captures index r slot' r') :
    slot' = slot ∧ Keeps runs (runs.set index r') :=
  step.of_bystander at_index (h.unowned index r at_index)
    (fun armed => known (armed.symm.trans h.shut))

theorem Slot.Begins.write {cells : List Cell} {written : Nat} {cell : Cell}
    (h : slot.Begins cells written) (next : cells[written]? = some cell)
    (room : written < maxDepth) :
    Slot.Begins { slot with cells := slot.cells.setIfInBounds written cell } cells
      (written + 1) := by
  intro k before
  rw [Vector.getElem?_setIfInBounds]
  by_cases same : written = k
  · obtain rfl := same
    rw [if_pos rfl, if_pos room, next]
  · rw [if_neg same]
    exact h k (by omega)

theorem Taken.advance (h : Taken slot runs captures target index r)
    (short : r.stack.length ≤ maxDepth) (step : RunStep slot captures index r slot' r') :
    Contested slot' (runs.set index r') captures target := by
  have run : (runs.set index r')[index]? = some r' := getElem?_set_of_some r' h.run
  have sole : ∀ (i : Nat) (q : HandlerRun), (runs.set index r')[i]? = some q → q.owns = true →
      i = index := by
    intro i q place owns
    rcases getElem?_set_eq_some place with ⟨same, -⟩ | ⟨-, before⟩
    · exact same
    · exact h.sole i q before owns
  have progress := h.progress
  unfold HandlerRun.Progress at progress
  cases step with
  | claim at_stage | pass at_stage | rest at_stage =>
    rw [at_stage] at progress
    cases progress
  | write written address at_stage more =>
    rw [at_stage] at progress
    obtain ⟨inside, -⟩ := List.getElem?_eq_some_iff.1 more
    have next : (r.cells index)[written]? = some ⟨address, some index⟩ := by
      rw [HandlerRun.cells, List.getElem?_map, more]
      rfl
    exact .taken index _ ⟨⟨h.shut, run, h.thread, h.claimed⟩, h.cleared, sole, inside,
      progress.2.write next (by omega)⟩
  | storeDepth written at_stage through =>
    rw [at_stage] at progress
    have last := List.getElem?_eq_none_iff.1 through
    obtain rfl : written = r.stack.length := by omega
    exact .taken index _ ⟨⟨h.shut, run, h.thread, h.claimed⟩, h.cleared, sole, rfl,
      progress.2⟩
  | setDone at_stage =>
    rw [at_stage] at progress
    refine .delivered index _ ⟨⟨h.shut, run, h.thread, h.claimed⟩, fun i q place => ?_, rfl,
      progress.1, progress.2⟩
    cases owns : q.owns with
    | false => rfl
    | true =>
      obtain rfl := sole i q place owns
      cases run.symm.trans place
      cases owns

theorem Open.claim (h : Open slot runs r.thread) (at_index : runs[index]? = some r) :
    Taken { slot with armed := disarmed }
      (runs.set index { r with stage := .writing 0, claimed := some captures }) captures r.thread
      index { r with stage := .writing 0, claimed := some captures } := by
  refine ⟨⟨rfl, getElem?_set_of_some _ at_index, rfl, rfl⟩,
    h.cleared, fun i q place owns => ?_, Nat.zero_le _,
    fun k before => absurd before (Nat.not_lt_zero k)⟩
  rcases getElem?_set_eq_some place with ⟨same, -⟩ | ⟨-, before⟩
  · exact same
  · cases owns.symm.trans (h.unowned i q before)

/-- A step of a handler run keeps the slot of an armed capture among the three. -/
theorem Contested.advance (h : Contested slot runs captures target)
    (at_index : runs[index]? = some r) (known : r.thread ≠ disarmed)
    (short : r.stack.length ≤ maxDepth) (step : RunStep slot captures index r slot' r') :
    Contested slot' (runs.set index r') captures target := by
  cases h with
  | unclaimed h =>
    have stands := h.unowned index r at_index
    rcases step.of_owns_eq_false stands with ⟨armed, rfl, rfl⟩ | ⟨rfl, rfl⟩
    · obtain rfl : r.thread = target := armed.symm.trans h.armed
      exact .taken index _ (h.claim at_index)
    · exact (Contested.unclaimed h).keep (keeps_set at_index stands)
  | taken i q h =>
    -- The owner goes on; any other run finds the slot disarmed.
    cases owns : r.owns with
    | true =>
      obtain rfl := h.sole index r at_index owns
      obtain rfl : q = r := Option.some.inj (h.run.symm.trans at_index)
      exact h.advance short step
    | false =>
      obtain ⟨rfl, keeps⟩ := step.of_bystander at_index owns
        (fun armed => known (armed.symm.trans h.shut))
      exact .taken i q (h.keep keeps)
  | delivered i q h =>
    obtain ⟨rfl, keeps⟩ := h.advance at_index known step
    exact .delivered i q (h.keep keeps)

end Runs

end BurstProfiler.Stack.Handshake
