import BurstProfiler.Proofs.Schedule.CutOff
import Mathlib.Computability.RegularExpressions

/-! The order of the calls of a run, told by a regular expression. Each phase leaves a part of it
still to come; a transition ends at most one call, and with that it takes the first letter of what
was to come. -/

set_option autoImplicit false

namespace BurstProfiler.Schedule

open RegularExpression (char)
open scoped Computability

/-- One burst: the hook before it, its captures, the hook behind it and the publication. -/
def burstLaw : RegularExpression Action :=
  char .starting * (char Action.sample).star * char .stopped * char .publish

def callLaw : RegularExpression Action := char .create * burstLaw.star * char .complete

section Words

variable {α : Type} {a : α} {w : List α} {P Q : RegularExpression α}

theorem cons_mem_char_mul (h : w ∈ Q.matches') : a :: w ∈ (char a * Q).matches' :=
  Language.append_mem_mul (a := [a]) rfl h

theorem mem_star_mul : w ∈ (P.star * Q).matches' ↔
    w ∈ Q.matches' ∨ w ∈ (P * (P.star * Q)).matches' := by
  have unfolded : (P.star * Q).matches' = Q.matches' + (P * (P.star * Q)).matches' := by
    calc P.matches'∗ * Q.matches'
        = (1 + P.matches' * P.matches'∗) * Q.matches' := by
          rw [Language.one_add_self_mul_kstar_eq_kstar]
      _ = Q.matches' + P.matches' * (P.matches'∗ * Q.matches') := by
          rw [add_mul, one_mul, mul_assoc]
  rw [unfolded, Language.mem_add]

end Words

def moreBursts : RegularExpression Action := burstLaw.star * char .complete

/-- The calls that may still come in a phase, that of the phase first. -/
def Phase.callsToCome : Phase → RegularExpression Action
  | .creating => char .create * moreBursts
  | .awaitingBurst _ => moreBursts
  | .starting _ =>
    char .starting * ((char Action.sample).star * (char .stopped * (char .publish * moreBursts)))
  | .awaitingSlot _ | .capturing _ =>
    (char Action.sample).star * (char .stopped * (char .publish * moreBursts))
  | .closing _ _ => char .stopped * (char .publish * moreBursts)
  | .publishing _ _ _ => char .publish * moreBursts
  | .completing => char .complete
  | .ended => 1
  | .broken _ => 0

theorem matches_callLaw : callLaw.matches' = Phase.creating.callsToCome.matches' := by
  simp only [callLaw, Phase.callsToCome, moreBursts, RegularExpression.matches'_mul, mul_assoc]

theorem mem_moreBursts {b : Burst} {w : List Action}
    (h : w ∈ (Phase.starting b).callsToCome.matches') : w ∈ moreBursts.matches' := by
  refine mem_star_mul.2 (.inr ?_)
  simp only [Phase.callsToCome, burstLaw, moreBursts, RegularExpression.matches'_mul,
    mul_assoc] at h ⊢
  exact h

theorem mem_moreBursts_of_enterBurst {p : Params} {r : Run} {b : Burst} {w : List Action}
    (h : w ∈ (r.enterBurst p b).phase.callsToCome.matches') : w ∈ moreBursts.matches' := by
  unfold Run.enterBurst at h
  split at h
  · exact h
  · exact mem_star_mul.2 (.inl h)

theorem mem_slots_of_slotPhase {p : Params} {recording : Recording} {w : List Action}
    (h : w ∈ (Run.slotPhase p recording).callsToCome.matches') :
    w ∈ (Phase.capturing recording).callsToCome.matches' := by
  unfold Run.slotPhase at h
  split at h
  · exact h
  · exact mem_star_mul.2 (.inl h)

-- What is to come before a transition is the call that it ends, and then what is to come behind
-- it.
theorem callsToCome_step {p : Params} {r r' : Run} {event : Event} (step : r.Step p event r')
    {w : List Action} (h : w ∈ r'.phase.callsToCome.matches') :
    event.call?.toList ++ w ∈ r.phase.callsToCome.matches' := by
  cases step with
  | available now at_phase =>
    rw [at_phase]
    exact cons_mem_char_mul (mem_moreBursts_of_enterBurst h)
  | unavailable now at_phase =>
    rw [at_phase]
    exact cons_mem_char_mul (mem_star_mul.2 (.inl h))
  | burstStopped b now at_phase =>
    rw [at_phase]
    exact mem_star_mul.2 (.inl h)
  | burstDue b now at_phase due =>
    rw [at_phase]
    exact mem_moreBursts h
  | started b now at_phase =>
    rw [at_phase]
    exact cons_mem_char_mul (mem_slots_of_slotPhase h)
  | slotStopped recording now at_phase =>
    rw [at_phase]
    exact mem_star_mul.2 (.inl h)
  | slotDue recording now at_phase due =>
    rw [at_phase]
    exact h
  | captured recording met result at_phase =>
    rw [at_phase]
    exact mem_star_mul.2 (.inr (cons_mem_char_mul (mem_slots_of_slotPhase h)))
  | closed recording interrupted now at_phase =>
    rw [at_phase]
    exact cons_mem_char_mul h
  | publishedLast b profile at_phase =>
    rw [at_phase]
    exact cons_mem_char_mul (mem_star_mul.2 (.inl h))
  | published b profile at_phase =>
    rw [at_phase]
    exact cons_mem_char_mul (mem_moreBursts_of_enterBurst h)
  | completed at_phase =>
    rw [at_phase]
    obtain rfl : w = [] := h
    rfl
  | broke message may_break => exact absurd h (Set.notMem_empty w)

-- A run that has not broken off can still keep to the law, at least as if it were stopped.
theorem callsAhead_mem {phase : Phase} (whole : ¬ phase.Broken) :
    phase.callsAhead ∈ phase.callsToCome.matches' := by
  have closes : [.complete] ∈ moreBursts.matches' := mem_star_mul.2 (.inl rfl)
  have published := cons_mem_char_mul (a := Action.publish) closes
  have stopped := cons_mem_char_mul (a := Action.stopped) published
  cases phase with
  | creating => exact cons_mem_char_mul closes
  | awaitingBurst b => exact closes
  | starting b => exact cons_mem_char_mul (mem_star_mul.2 (.inl stopped))
  | awaitingSlot recording => exact mem_star_mul.2 (.inl stopped)
  | capturing recording =>
    exact mem_star_mul.2 (.inr (cons_mem_char_mul (mem_star_mul.2 (.inl stopped))))
  | closing recording interrupted => exact stopped
  | publishing b profile interrupted => exact published
  | completing | ended => rfl
  | broken message => exact absurd ⟨message, rfl⟩ whole

end BurstProfiler.Schedule
