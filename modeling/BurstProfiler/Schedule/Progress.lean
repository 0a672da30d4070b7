import BurstProfiler.Schedule.Run

/-! Every run ends: each step lowers the number of steps that may still follow. -/

set_option autoImplicit false

namespace BurstProfiler.Schedule

def stepsPerBurst (p : Params) : Nat := 2 * p.samplesPerBurst.toNat + 6

/-- A bound on the steps behind the burst with this index. -/
def stepsBehind (p : Params) (index : Nat) : Nat :=
  (p.bursts.toNat - index - 1) * stepsPerBurst p + 2

def Phase.remaining (p : Params) : Phase → Nat
  | .creating => p.bursts.toNat * stepsPerBurst p + 3
  | .awaitingBurst b => stepsBehind p b.index + stepsPerBurst p
  | .starting b => stepsBehind p b.index + 2 * p.samplesPerBurst.toNat + 5
  | .awaitingSlot r => stepsBehind p r.burst.index + 2 * (p.samplesPerBurst.toNat - r.slot) + 4
  | .capturing r => stepsBehind p r.burst.index + 2 * (p.samplesPerBurst.toNat - r.slot) + 3
  | .closing r _ => stepsBehind p r.burst.index + 2
  | .publishing b _ _ => stepsBehind p b.index + 1
  | .completing => 1
  | .ended | .broken _ => 0

def Run.remaining (p : Params) (r : Run) : Nat := r.phase.remaining p

theorem remaining_conclude (p : Params) (r : Run) : r.conclude.remaining p = 1 := rfl

theorem remaining_enterBurst_le (p : Params) (r : Run) (b : Burst) :
    (r.enterBurst p b).remaining p ≤ (p.bursts.toNat - b.index) * stepsPerBurst p + 2 := by
  unfold Run.enterBurst
  split
  · rename_i h
    obtain ⟨k, more⟩ : ∃ k, p.bursts.toNat - b.index = k + 1 :=
      ⟨p.bursts.toNat - b.index - 1, by omega⟩
    simp only [Run.remaining, Phase.remaining, stepsBehind, more, Nat.add_mul]
    simp only [Nat.add_sub_cancel]
    omega
  · rw [remaining_conclude]; omega

theorem remaining_slotPhase_le (p : Params) (r : Recording) :
    (Run.slotPhase p r).remaining p ≤
      stepsBehind p r.burst.index + 2 * (p.samplesPerBurst.toNat - r.slot) + 4 := by
  unfold Run.slotPhase
  split
  · exact Nat.le_refl _
  · simp only [Phase.remaining]; omega

theorem afterCapture_burst (r : Recording) (met : List Module) (result : Except Error Sample) :
    (r.afterCapture met result).burst = r.burst := by
  unfold Recording.afterCapture; split <;> rfl

theorem afterCapture_slot (r : Recording) (met : List Module) (result : Except Error Sample) :
    (r.afterCapture met result).slot = r.slot + 1 := by
  unfold Recording.afterCapture; split <;> rfl

theorem remaining_slotPhase_afterCapture (p : Params) (r : Recording) (met : List Module)
    (result : Except Error Sample) :
    (Run.slotPhase p (r.afterCapture met result)).remaining p <
      stepsBehind p r.burst.index + 2 * (p.samplesPerBurst.toNat - r.slot) + 3 := by
  unfold Run.slotPhase
  split
  · rename_i h
    rw [afterCapture_slot] at h
    simp only [Phase.remaining, afterCapture_burst, afterCapture_slot]; omega
  · simp only [Phase.remaining, afterCapture_burst]; omega

theorem remaining_lt_of_step {p : Params} {r s : Run} {event : Event}
    (h : r.step? p event = some s) : s.remaining p < r.remaining p := by
  have at_phase : ∀ phase, r.phase = phase → r.remaining p = phase.remaining p :=
    fun phase same => by rw [Run.remaining, same]
  unfold Run.step? at h
  split at h
  · rename_i now same
    cases h
    rw [at_phase _ same]
    refine Nat.lt_of_le_of_lt (remaining_enterBurst_le p _ _) ?_
    simp only [Phase.remaining, Burst.first, Nat.sub_zero]; omega
  · rename_i same
    cases h
    rw [at_phase _ same, remaining_conclude]
    simp only [Phase.remaining]; omega
  · rename_i b stopped now same
    rw [at_phase _ same]
    split at h
    · split at h
      · cases h
        rw [remaining_conclude]
        simp only [Phase.remaining, stepsBehind]; omega
      · cases h
        simp only [Run.remaining, Phase.remaining, stepsPerBurst]; omega
    · simp at h
  · rename_i b now same
    cases h
    rw [at_phase _ same]
    refine Nat.lt_of_le_of_lt (remaining_slotPhase_le p _) ?_
    simp only [Phase.remaining, Recording.begin]; omega
  · rename_i recording stopped now same
    rw [at_phase _ same]
    split at h
    · split at h
      · cases h; simp only [Run.remaining, Phase.remaining]; omega
      · cases h; simp only [Run.remaining, Phase.remaining]; omega
    · simp at h
  · rename_i recording met result same
    cases h
    rw [at_phase _ same]
    exact remaining_slotPhase_afterCapture p recording met result
  · rename_i recording interrupted now same
    cases h
    rw [at_phase _ same]
    simp only [Run.remaining, Phase.remaining]; omega
  · rename_i b profile interrupted same
    rw [at_phase _ same]
    split at h
    · cases h
      rw [remaining_conclude]
      simp only [Phase.remaining, stepsBehind]; omega
    · cases h
      refine Nat.lt_of_le_of_lt (remaining_enterBurst_le p _ _) ?_
      simp only [Phase.remaining, stepsBehind, Burst.next, Nat.sub_sub]; omega
  · rename_i same
    cases h
    rw [at_phase _ same]
    simp only [Run.remaining, Phase.remaining]; omega
  · rename_i message same
    cases h; rw [at_phase _ same]; simp only [Run.remaining, Phase.remaining]; omega
  · rename_i b message same
    cases h; rw [at_phase _ same]; simp only [Run.remaining, Phase.remaining]; omega
  · rename_i recording message same
    cases h; rw [at_phase _ same]; simp only [Run.remaining, Phase.remaining]; omega
  · rename_i recording interrupted message same
    cases h; rw [at_phase _ same]; simp only [Run.remaining, Phase.remaining]; omega
  · rename_i message same
    cases h; rw [at_phase _ same]; simp only [Run.remaining, Phase.remaining]; omega
  · simp at h

end BurstProfiler.Schedule
