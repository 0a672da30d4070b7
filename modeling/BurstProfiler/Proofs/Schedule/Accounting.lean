import BurstProfiler.Proofs.Schedule.Journal
import BurstProfiler.Proofs.Schedule.Transitions

/-! The accounts of a run: its counters and what it hands to the sink, against the journal of its
history. Each phase fixes how far the journal has come; every transition keeps that. -/

set_option autoImplicit false

namespace BurstProfiler.Schedule

def Journal.openCaptures (j : Journal) : List Capture := (j.current.map Prod.snd).getD []

/-- The run is at a burst, and the bursts before it are recorded in full and published. -/
structure AtBurst (p : Params) (j : Journal) (bursts : List BurstEntry) (s : Summary)
    (b : Burst) : Prop where
  capturer : j.capturer = some true
  length : bursts.length = b.index
  full : ∀ e ∈ bursts, e.Full p
  more : b.index < p.bursts.toNat
  profiles : s.profiles = b.index
  samples : s.samples = (bursts.flatMap BurstEntry.samples).length
  stopped : s.stopped = false
  available : s.unavailable = false

/-- A recording stands as the captures since its start have left it. -/
structure Records (p : Params) (j : Journal) (r : Recording) : Prop where
  current : j.current = some (r.started, j.openCaptures)
  slot : r.slot = j.openCaptures.length
  table : r.builder.table = internAll .empty (j.openCaptures.flatMap Capture.met)
  samples : r.builder.samples.toList = j.openCaptures.filterMap Capture.sample?
  period : r.builder.period = p.samplingInterval
  order : r.builder.preservesOrder = p.preservesOrder

/-- The run is through with bursts that stand in the journal: all before the last are full, and
it was stopped unless all bursts are there and full. -/
structure Settled (p : Params) (j : Journal) (s : Summary) : Prop where
  capturer : j.capturer = some true
  profiles : s.profiles = j.bursts.length
  within : j.bursts.length ≤ p.bursts.toNat
  samples : s.samples = (j.bursts.flatMap BurstEntry.samples).length
  full : ∀ e ∈ j.bursts.dropLast, e.Full p
  bounded : ∀ e ∈ j.bursts, e.captures.length ≤ p.samplesPerBurst.toNat
  unstopped : s.stopped = false ↔ j.bursts.length = p.bursts.toNat ∧ ∀ e ∈ j.bursts, e.Full p
  requested : s.stopped = true → j.stopRequested = true
  available : s.unavailable = false

structure Idled (j : Journal) (s : Summary) : Prop where
  capturer : j.capturer = some false
  calls : j.calls = 0
  bursts : j.bursts = []
  summary : s = { Summary.zero with unavailable := true }

/-- How far journal and counters have come in a phase. -/
def Phase.Fits (p : Params) (j : Journal) (s : Summary) : Phase → Prop
  | .creating => j.capturer = none ∧ j.calls = 0 ∧ j.bursts = [] ∧ j.current = none ∧ s = .zero
  | .awaitingBurst b | .starting b => AtBurst p j j.bursts s b ∧ j.current = none
  | .awaitingSlot r | .capturing r =>
    AtBurst p j j.bursts s r.burst ∧ Records p j r ∧ r.slot < p.samplesPerBurst.toNat
  | .closing r interrupted =>
    AtBurst p j j.bursts s r.burst ∧ Records p j r ∧ r.slot ≤ p.samplesPerBurst.toNat ∧
      (interrupted = false ↔ r.slot = p.samplesPerBurst.toNat) ∧
      (interrupted = true → j.stopRequested = true)
  | .publishing b profile interrupted =>
    ∃ earlier e, j.bursts = earlier ++ [e] ∧ AtBurst p j earlier s b ∧ j.current = none ∧
      profile = e.profile p ∧ e.captures.length ≤ p.samplesPerBurst.toNat ∧
      (interrupted = false ↔ e.Full p) ∧ (interrupted = true → j.stopRequested = true)
  | .completing | .ended => j.current = none ∧ (Idled j s ∨ Settled p j s)
  | .broken _ => True

structure Run.Fits (p : Params) (j : Journal) (r : Run) : Prop where
  captures : j.captures = j.bursts.flatMap BurstEntry.captures ++ j.openCaptures
  skipped : r.summary.skipped = j.captures.countP Capture.failed
  errors : r.summary.errors = j.captures.countP Capture.failedForGood
  phase : r.phase.Fits p j r.summary

theorem fits_fresh (p : Params) : Run.fresh.Fits p .blank :=
  ⟨rfl, rfl, rfl, rfl, rfl, rfl, rfl, rfl⟩

theorem summary_enterBurst (p : Params) (r : Run) (b : Burst) :
    (r.enterBurst p b).summary = r.summary := by
  unfold Run.enterBurst
  split <;> rfl

-- Full bursts up to a burst are all there are, or the run is at that burst.
theorem fits_enterBurst {p : Params} {j : Journal} {r : Run} {b : Burst}
    (capturer : j.capturer = some true) (length : j.bursts.length = b.index)
    (full : ∀ e ∈ j.bursts, e.Full p) (within : b.index ≤ p.bursts.toNat)
    (profiles : r.summary.profiles = b.index)
    (samples : r.summary.samples = (j.bursts.flatMap BurstEntry.samples).length)
    (stopped : r.summary.stopped = false) (available : r.summary.unavailable = false)
    (current : j.current = none) :
    (r.enterBurst p b).phase.Fits p j r.summary := by
  unfold Run.enterBurst
  split
  · rename_i more
    exact ⟨⟨capturer, length, full, more, profiles, samples, stopped, available⟩, current⟩
  · rename_i last
    have all : j.bursts.length = p.bursts.toNat := by omega
    refine ⟨current, .inr ⟨capturer, by omega, by omega, samples, ?_, ?_, ?_, ?_, available⟩⟩
    · intro e member
      exact full e (List.dropLast_subset _ member)
    · intro e member
      exact Nat.le_of_eq (full e member)
    · exact ⟨fun _ => ⟨all, full⟩, fun _ => stopped⟩
    · intro contrary
      rw [stopped] at contrary
      cases contrary

-- A stop before a burst leaves full bursts, of which one is missing.
theorem settled_of_atBurst {p : Params} {j : Journal} {s : Summary} {b : Burst}
    (at_burst : AtBurst p j j.bursts s b) (requested : j.stopRequested = true) :
    Settled p j { s with stopped := true } := by
  have more := at_burst.more
  have length := at_burst.length
  refine ⟨at_burst.capturer, at_burst.profiles.trans length.symm, by omega, at_burst.samples,
    ?_, ?_, ?_, fun _ => requested, at_burst.available⟩
  · intro e member
    exact at_burst.full e (List.dropLast_subset _ member)
  · intro e member
    exact Nat.le_of_eq (at_burst.full e member)
  · constructor
    · intro contrary
      cases contrary
    · rintro ⟨all, -⟩
      omega

-- A burst that a stop cut short is the last, and it is not full.
theorem settled_of_interrupted {p : Params} {j : Journal} {s : Summary} {b : Burst}
    {earlier : List BurstEntry} {e : BurstEntry} (bursts : j.bursts = earlier ++ [e])
    (at_burst : AtBurst p j earlier s b) (bounded : e.captures.length ≤ p.samplesPerBurst.toNat)
    (short : ¬ e.Full p) (requested : j.stopRequested = true) :
    Settled p j { s with
      profiles := s.profiles + 1, samples := s.samples + e.samples.length, stopped := true } := by
  have more := at_burst.more
  have length := at_burst.length
  refine ⟨at_burst.capturer, ?_, ?_, ?_, ?_, ?_, ?_, fun _ => requested, at_burst.available⟩
  · simp only [bursts, List.length_append, List.length_singleton, at_burst.profiles, length]
  · simp only [bursts, List.length_append, List.length_singleton]
    omega
  · simp only [bursts, List.flatMap_append, List.flatMap_singleton, List.length_append,
      at_burst.samples]
  · rw [bursts, List.dropLast_concat]
    exact at_burst.full
  · intro f member
    rw [bursts, List.mem_append, List.mem_singleton] at member
    rcases member with member | rfl
    · exact Nat.le_of_eq (at_burst.full f member)
    · exact bounded
  · constructor
    · intro contrary
      cases contrary
    · rintro ⟨-, full⟩
      exact absurd (full e (by rw [bursts]; exact List.mem_concat_self)) short

theorem records_begin (p : Params) (j : Journal) (b : Burst) (now : Instant) :
    Records p (j.note (.event (.started now))) (.begin p b now) :=
  ⟨rfl, rfl, rfl, rfl, rfl, rfl⟩

theorem openCaptures_captured {p : Params} {j : Journal} {r : Recording} (h : Records p j r)
    (met : List Module) (result : Except Error Sample) :
    (j.note (.event (.captured met result))).openCaptures = j.openCaptures ++ [⟨met, result⟩] := by
  have current := h.current
  generalize j.openCaptures = earlier at current
  simp only [Journal.note, Journal.openCaptures, current, Option.map_some, Option.getD_some]

theorem Records.afterCapture {p : Params} {j : Journal} {r : Recording} (h : Records p j r)
    (met : List Module) (result : Except Error Sample) :
    Records p (j.note (.event (.captured met result))) (r.afterCapture met result) := by
  have caps := openCaptures_captured h met result
  have current : (j.note (.event (.captured met result))).current =
      some (r.started, j.openCaptures ++ [⟨met, result⟩]) := by
    simp only [Journal.note, h.current, Option.map_some]
  have slot : r.slot + 1 = (j.openCaptures ++ [(⟨met, result⟩ : Capture)]).length := by
    rw [h.slot, List.length_append, List.length_singleton]
  have table : internAll r.builder.table met = internAll .empty
      ((j.openCaptures ++ [(⟨met, result⟩ : Capture)]).flatMap Capture.met) := by
    rw [h.table, List.flatMap_append, List.flatMap_singleton, internAll, internAll, internAll,
      List.foldl_append]
  cases result with
  | ok sample =>
    refine ⟨by rw [caps]; exact current, by rw [caps]; exact slot, by rw [caps]; exact table,
      ?_, h.period, h.order⟩
    rw [caps, List.filterMap_append, ← h.samples]
    exact Array.toList_push
  | error e =>
    refine ⟨by rw [caps]; exact current, by rw [caps]; exact slot, by rw [caps]; exact table,
      ?_, h.period, h.order⟩
    rw [caps, List.filterMap_append, ← h.samples]
    exact (List.append_nil _).symm

theorem Records.profile {p : Params} {j : Journal} {r : Recording} (h : Records p j r)
    (now : Instant) :
    r.profile now = BurstEntry.profile p ⟨r.started, j.openCaptures, now⟩ := by
  unfold Recording.profile Profile.Builder.finish BurstEntry.profile BurstEntry.samples
  rw [h.table, h.samples, h.period, h.order]
  simp only [toList_internAll_empty]

theorem bursts_closed {p : Params} {j : Journal} {r : Recording} (h : Records p j r)
    (now : Instant) :
    (j.note (.event (.closed now))).bursts =
      j.bursts ++ [⟨r.started, j.openCaptures, now⟩] := by
  have current := h.current
  simp only [Journal.note]
  rw [current]
  rfl

-- What a run's phase says of the journal, kept by a transition that hands on the phase.
theorem AtBurst.note {p : Params} {j k : Journal} {bursts : List BurstEntry} {s t : Summary}
    {b : Burst} (h : AtBurst p j bursts s b) (capturer : k.capturer = j.capturer)
    (profiles : t.profiles = s.profiles) (samples : t.samples = s.samples)
    (stopped : t.stopped = s.stopped) (available : t.unavailable = s.unavailable) :
    AtBurst p k bursts t b :=
  ⟨capturer.trans h.capturer, h.length, h.full, h.more, profiles.trans h.profiles,
    samples.trans h.samples, stopped.trans h.stopped, available.trans h.available⟩

theorem fits_slotPhase {p : Params} {j : Journal} {s : Summary} {r : Recording}
    (at_burst : AtBurst p j j.bursts s r.burst) (records : Records p j r)
    (within : r.slot ≤ p.samplesPerBurst.toNat) : (Run.slotPhase p r).Fits p j s := by
  unfold Run.slotPhase
  split
  · rename_i more
    exact ⟨at_burst, records, more⟩
  · rename_i last
    refine ⟨at_burst, records, within, ⟨fun _ => by omega, fun _ => rfl⟩, ?_⟩
    intro contrary
    cases contrary

theorem skipped_afterCapture (s : Summary) (met : List Module) (result : Except Error Sample) :
    (s.afterCapture result).skipped =
      s.skipped + [(⟨met, result⟩ : Capture)].countP Capture.failed := by
  cases result with
  | ok sample => rfl
  | error e =>
    simp only [Summary.afterCapture]
    split <;> rfl

theorem errors_afterCapture (s : Summary) (met : List Module) (result : Except Error Sample) :
    (s.afterCapture result).errors =
      s.errors + [(⟨met, result⟩ : Capture)].countP Capture.failedForGood := by
  cases result with
  | ok sample => rfl
  | error e =>
    simp only [Summary.afterCapture]
    split
    · rename_i passes
      simp [Capture.failedForGood, passes]
    · rename_i stays
      simp [Capture.failedForGood, stays]

theorem afterCapture_keeps (s : Summary) (result : Except Error Sample) :
    (s.afterCapture result).profiles = s.profiles ∧ (s.afterCapture result).samples = s.samples ∧
      (s.afterCapture result).stopped = s.stopped ∧
      (s.afterCapture result).unavailable = s.unavailable := by
  unfold Summary.afterCapture
  split
  · exact ⟨rfl, rfl, rfl, rfl⟩
  · split <;> exact ⟨rfl, rfl, rfl, rfl⟩

namespace Run.Fits

variable {p : Params} {j : Journal} {r r' : Run}

theorem available (h : r.Fits p j) (now : Instant) (at_phase : r.phase = .creating) :
    (r.enterBurst p (.first p now)).Fits p (j.note (.event (.created true now))) := by
  have fits := h.phase
  rw [at_phase] at fits
  obtain ⟨-, -, bursts, current, zero⟩ := fits
  have none_yet : ∀ e ∈ j.bursts, e.Full p := by
    intro e member
    rw [bursts] at member
    cases member
  refine ⟨h.captures, ?_, ?_, ?_⟩
  · rw [summary_enterBurst]; exact h.skipped
  · rw [summary_enterBurst]; exact h.errors
  · rw [summary_enterBurst]
    refine fits_enterBurst rfl ?_ none_yet (Nat.zero_le _) ?_ ?_ ?_ ?_ current
    · exact congrArg List.length bursts
    · exact congrArg Summary.profiles zero
    · rw [zero]
      change 0 = (j.bursts.flatMap BurstEntry.samples).length
      rw [bursts]
      rfl
    · exact congrArg Summary.stopped zero
    · exact congrArg Summary.unavailable zero

theorem started (h : r.Fits p j) (b : Burst) (now : Instant) (at_phase : r.phase = .starting b) :
    Run.Fits p (j.note (.event (.started now)))
      { r with phase := Run.slotPhase p (.begin p b now) } := by
  have fits := h.phase
  rw [at_phase] at fits
  obtain ⟨at_burst, current⟩ := fits
  have closed : j.openCaptures = [] := by rw [Journal.openCaptures, current]; rfl
  refine ⟨?_, h.skipped, h.errors, ?_⟩
  · exact h.captures.trans (congrArg _ closed)
  · exact fits_slotPhase (at_burst.note rfl rfl rfl rfl rfl) (records_begin p j b now)
      (Nat.zero_le _)

theorem slotStopped (h : r.Fits p j) (recording : Recording) (now : Instant)
    (at_phase : r.phase = .awaitingSlot recording) (requested : j.stopRequested = true) :
    Run.Fits p (j.note (.event (.awoke true now)))
      { r with phase := .closing recording true } := by
  have fits := h.phase
  rw [at_phase] at fits
  obtain ⟨at_burst, records, more⟩ := fits
  refine ⟨h.captures, h.skipped, h.errors, at_burst, records, Nat.le_of_lt more, ?_,
    fun _ => requested⟩
  constructor
  · intro contrary
    cases contrary
  · intro last
    omega

theorem captured (h : r.Fits p j) (recording : Recording) (met : List Module)
    (result : Except Error Sample) (at_phase : r.phase = .capturing recording) :
    Run.Fits p (j.note (.event (.captured met result))) { r with
      phase := Run.slotPhase p (recording.afterCapture met result)
      summary := r.summary.afterCapture result } := by
  have fits := h.phase
  rw [at_phase] at fits
  obtain ⟨at_burst, records, more⟩ := fits
  obtain ⟨profiles, samples, stopped, available⟩ := afterCapture_keeps r.summary result
  refine ⟨?_, ?_, ?_, ?_⟩
  · rw [openCaptures_captured records met result, ← List.append_assoc]
    exact congrArg (· ++ [(⟨met, result⟩ : Capture)]) h.captures
  · change _ = (j.captures ++ [(⟨met, result⟩ : Capture)]).countP _
    rw [skipped_afterCapture r.summary met result, List.countP_append, h.skipped]
  · change _ = (j.captures ++ [(⟨met, result⟩ : Capture)]).countP _
    rw [errors_afterCapture r.summary met result, List.countP_append, h.errors]
  · refine fits_slotPhase ?_ (records.afterCapture met result) ?_
    · rw [afterCapture_burst]
      exact at_burst.note rfl profiles samples stopped available
    · rw [afterCapture_slot]
      exact more

theorem closed (h : r.Fits p j) (recording : Recording) (interrupted : Bool) (now : Instant)
    (at_phase : r.phase = .closing recording interrupted) :
    Run.Fits p (j.note (.event (.closed now)))
      { r with phase := .publishing recording.burst (recording.profile now) interrupted } := by
  have fits := h.phase
  rw [at_phase] at fits
  obtain ⟨at_burst, records, within, whole, requested⟩ := fits
  have bursts := bursts_closed records now
  refine ⟨?_, h.skipped, h.errors, ?_⟩
  · rw [bursts, List.flatMap_append, List.flatMap_singleton, List.append_assoc]
    refine h.captures.trans (congrArg _ ?_)
    exact (List.append_nil _).symm
  · refine ⟨j.bursts, _, bursts, at_burst.note rfl rfl rfl rfl rfl, rfl, records.profile now,
      ?_, ?_, requested⟩
    · rw [← records.slot]; exact within
    · rw [BurstEntry.Full, ← records.slot]; exact whole

theorem published (h : r.Fits p j) (b : Burst) (profile : Profile)
    (at_phase : r.phase = .publishing b profile false) :
    Run.Fits p (j.note (.event .published)) (Run.enterBurst p { r with
      summary := { r.summary with
        profiles := r.summary.profiles + 1
        samples := r.summary.samples + profile.samples.length } } (b.next p)) := by
  have fits := h.phase
  rw [at_phase] at fits
  obtain ⟨earlier, e, bursts, at_burst, current, rfl, bounded, whole, -⟩ := fits
  refine ⟨h.captures, ?_, ?_, ?_⟩
  · rw [summary_enterBurst]; exact h.skipped
  · rw [summary_enterBurst]; exact h.errors
  · rw [summary_enterBurst]
    refine fits_enterBurst at_burst.capturer ?_ ?_ at_burst.more ?_ ?_ at_burst.stopped
      at_burst.available current
    · change j.bursts.length = b.index + 1
      rw [bursts, List.length_append, List.length_singleton, at_burst.length]
    · intro f member
      have member' : f ∈ j.bursts := member
      rw [bursts, List.mem_append, List.mem_singleton] at member'
      rcases member' with member' | rfl
      · exact at_burst.full f member'
      · exact whole.1 rfl
    · exact congrArg (· + 1) at_burst.profiles
    · change r.summary.samples + e.samples.length =
        (j.bursts.flatMap BurstEntry.samples).length
      rw [bursts, List.flatMap_append, List.flatMap_singleton, List.length_append,
        at_burst.samples]

theorem step {event : Event} (h : r.Fits p j) (step : r.Step p event r')
    (flag : ∀ now, event = .awoke true now → j.stopRequested = true) :
    r'.Fits p (j.note (.event event)) := by
  have fits := h.phase
  cases step with
  | available now at_phase => exact h.available now at_phase
  | unavailable now at_phase =>
    rw [at_phase] at fits
    obtain ⟨-, calls, bursts, current, zero⟩ := fits
    refine ⟨h.captures, h.skipped, h.errors, current, .inl ⟨rfl, calls, bursts, ?_⟩⟩
    change { r.summary with unavailable := true } = _
    rw [zero]
  | burstStopped b now at_phase =>
    rw [at_phase] at fits
    obtain ⟨at_burst, current⟩ := fits
    exact ⟨h.captures, h.skipped, h.errors, current,
      .inr (settled_of_atBurst at_burst (flag now rfl))⟩
  | burstDue b now at_phase due =>
    rw [at_phase] at fits
    exact ⟨h.captures, h.skipped, h.errors, fits⟩
  | started b now at_phase => exact h.started b now at_phase
  | slotStopped recording now at_phase =>
    exact h.slotStopped recording now at_phase (flag now rfl)
  | slotDue recording now at_phase due =>
    rw [at_phase] at fits
    exact ⟨h.captures, h.skipped, h.errors, fits⟩
  | captured recording met result at_phase => exact h.captured recording met result at_phase
  | closed recording interrupted now at_phase => exact h.closed recording interrupted now at_phase
  | publishedLast b profile at_phase =>
    rw [at_phase] at fits
    obtain ⟨earlier, e, bursts, at_burst, current, rfl, bounded, whole, requested⟩ := fits
    have short : ¬ e.Full p := fun full => by cases whole.2 full
    exact ⟨h.captures, h.skipped, h.errors, current,
      .inr (settled_of_interrupted bursts at_burst bounded short (requested rfl))⟩
  | published b profile at_phase => exact h.published b profile at_phase
  | completed at_phase =>
    rw [at_phase] at fits
    exact ⟨h.captures, h.skipped, h.errors, fits⟩
  | broke message at_phase => exact ⟨h.captures, h.skipped, h.errors, trivial⟩

end Run.Fits

end BurstProfiler.Schedule
