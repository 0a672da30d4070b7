import BurstProfiler.Proofs.Schedule.Accounting

/-! What a session hands over. The profile of a burst goes to the sink when the run counts it, and
when a run returns, its profiles and counters are those of its journal. -/

set_option autoImplicit false

namespace BurstProfiler.Schedule

def publishedProfiles (p : Params) (j : Journal) (s : Summary) : List Profile :=
  (j.bursts.take s.profiles).map (BurstEntry.profile p)

/-- Where the profiles of a session are that began with a sink and a store: behind what the store
held, or in the batch, which the callback has when the run has ended. -/
def Session.Handing (sink : Sink) (before : PendingStore) (s : Session) (store : PendingStore)
    (profiles : List Profile) : Prop :=
  match sink with
  | .pending =>
    s.sink = .pending ∧ store.profiles = before.profiles ++ profiles ∧ s.delivered = []
  | .custom batch =>
    s.sink = .custom (batch ++ profiles) ∧ store = before ∧
      s.delivered = if s.run.result?.isSome then [batch ++ profiles] else []

structure Session.Fits (p : Params) (sink : Sink) (before : PendingStore) (j : Journal)
    (s : Session) (store : PendingStore) : Prop where
  params : s.params = p
  flag : s.stopRequested = j.stopRequested
  run : s.run.Fits p j
  handing : s.Handing sink before store (publishedProfiles p j s.run.summary)

theorem Session.fits_fresh (p : Params) (sink : Sink) (store : PendingStore) :
    (Session.fresh p sink).Fits p sink store .blank store := by
  refine ⟨rfl, rfl, Schedule.fits_fresh p, ?_⟩
  cases sink with
  | pending => exact ⟨rfl, (List.append_nil _).symm, rfl⟩
  | custom batch => exact ⟨congrArg Sink.custom (List.append_nil _).symm, rfl, rfl⟩

theorem result?_enterBurst (p : Params) (r : Run) (b : Burst) :
    (r.enterBurst p b).result? = none := by
  unfold Run.enterBurst
  split <;> rfl

theorem result?_slotPhase (p : Params) (r : Recording) (state : State) (summary : Summary) :
    (⟨Run.slotPhase p r, state, summary⟩ : Run).result? = none := by
  unfold Run.slotPhase
  split <;> rfl

theorem Run.Step.result?_eq_none {p : Params} {r r' : Run} {event : Event}
    (step : r.Step p event r') : r.result? = none := by
  unfold Run.result?
  cases step with
  | broke message may_break =>
    revert may_break
    cases r.phase <;> intro may_break <;> first | rfl | cases may_break
  | _ => simp only [*]

-- The published profiles after a transition: one more when a profile was published.
theorem publishedProfiles_step {p : Params} {j : Journal} {r r' : Run} {event : Event}
    (h : r.Fits p j) (step : r.Step p event r') :
    publishedProfiles p (j.note (.event event)) r'.summary =
      match event, r.phase with
      | .published, .publishing _ profile _ => publishedProfiles p j r.summary ++ [profile]
      | _, _ => publishedProfiles p j r.summary := by
  have fits := h.phase
  have one_more : ∀ b profile interrupted, r.phase = .publishing b profile interrupted →
      (j.bursts.take (r.summary.profiles + 1)).map (BurstEntry.profile p) =
        publishedProfiles p j r.summary ++ [profile] := by
    intro b profile interrupted at_phase
    rw [at_phase] at fits
    obtain ⟨earlier, e, bursts, at_burst, -, rfl, -⟩ := fits
    have length : r.summary.profiles = earlier.length :=
      at_burst.profiles.trans at_burst.length.symm
    rw [publishedProfiles, bursts, length, List.take_left, List.take_of_length_le]
    · exact List.map_append
    · exact Nat.le_of_eq List.length_append
  cases step with
  | available now at_phase => rw [summary_enterBurst]; rfl
  | captured recording met result at_phase =>
    unfold publishedProfiles
    rw [(afterCapture_keeps r.summary result).1]
    rfl
  | closed recording interrupted now at_phase =>
    rw [at_phase] at fits
    obtain ⟨at_burst, records, -⟩ := fits
    have length : r.summary.profiles = j.bursts.length :=
      at_burst.profiles.trans at_burst.length.symm
    unfold publishedProfiles
    rw [bursts_closed records now]
    simp only [length, List.take_left, List.take_length]
  | publishedLast b profile at_phase =>
    rw [at_phase]
    exact one_more b profile true at_phase
  | published b profile at_phase =>
    rw [at_phase, summary_enterBurst]
    exact one_more b profile false at_phase
  | _ => rfl

theorem Session.deliver_stopRequested (s : Session) (store : PendingStore) (event : Event) :
    (s.deliver store event).1.stopRequested = s.stopRequested := by
  unfold Session.deliver
  split
  · rfl
  · split <;> rfl
  · rfl

theorem Session.Handing.quiet {sink : Sink} {before store : PendingStore} {s : Session}
    {profiles : List Profile} (h : s.Handing sink before store profiles) {run : Run}
    (running : s.run.result? = none) (still : run.result? = none) :
    ({ s with run := run } : Session).Handing sink before store profiles := by
  cases sink with
  | pending => exact h
  | custom batch =>
    refine ⟨h.1, h.2.1, h.2.2.trans ?_⟩
    rw [running, still]

theorem Session.Handing.publish {sink : Sink} {before store : PendingStore} {s : Session}
    {profiles : List Profile} (h : s.Handing sink before store profiles) {b : Burst}
    {profile : Profile} {interrupted : Bool}
    (at_phase : s.run.phase = .publishing b profile interrupted) {run : Run}
    (running : s.run.result? = none) (still : run.result? = none) :
    ({ (s.deliver store .published).1 with run := run } : Session).Handing sink before
      (s.deliver store .published).2 (profiles ++ [profile]) := by
  simp only [Session.deliver, at_phase]
  cases sink with
  | pending =>
    obtain ⟨pending, stored, delivered⟩ := h
    rw [pending]
    refine ⟨rfl, ?_, delivered⟩
    rw [← List.append_assoc, ← stored]
    rfl
  | custom batch =>
    obtain ⟨custom, stored, delivered⟩ := h
    rw [custom]
    refine ⟨congrArg Sink.custom (List.append_assoc _ _ _), stored, ?_⟩
    rw [running] at delivered
    rw [still]
    exact delivered

theorem Session.Handing.complete {sink : Sink} {before store : PendingStore} {s : Session}
    {profiles : List Profile} (h : s.Handing sink before store profiles) {run : Run}
    (running : s.run.result? = none) (ended : run.result?.isSome) :
    ({ (s.deliver store .completed).1 with run := run } : Session).Handing sink before
      (s.deliver store .completed).2 profiles := by
  cases sink with
  | pending =>
    obtain ⟨pending, stored, delivered⟩ := h
    simp only [Session.deliver, pending, Sink.batch?]
    exact ⟨rfl, stored, delivered⟩
  | custom batch =>
    obtain ⟨custom, stored, delivered⟩ := h
    simp only [Session.deliver, custom, Sink.batch?]
    refine ⟨rfl, stored, ?_⟩
    rw [running] at delivered
    rw [if_pos ended, delivered]
    rfl

theorem Run.Fits.requestStop {p : Params} {j : Journal} {r : Run} (h : r.Fits p j) :
    r.Fits p (j.note .requestStop) := by
  refine ⟨h.captures, h.skipped, h.errors, ?_⟩
  have fits := h.phase
  revert fits
  cases r.phase with
  | awaitingBurst b => exact fun ⟨at_burst, rest⟩ => ⟨at_burst.note rfl rfl rfl rfl rfl, rest⟩
  | starting b => exact fun ⟨at_burst, rest⟩ => ⟨at_burst.note rfl rfl rfl rfl rfl, rest⟩
  | awaitingSlot recording =>
    exact fun ⟨at_burst, records, more⟩ =>
      ⟨at_burst.note rfl rfl rfl rfl rfl, { records with }, more⟩
  | capturing recording =>
    exact fun ⟨at_burst, records, more⟩ =>
      ⟨at_burst.note rfl rfl rfl rfl rfl, { records with }, more⟩
  | closing recording interrupted =>
    exact fun ⟨at_burst, records, within, whole, _⟩ =>
      ⟨at_burst.note rfl rfl rfl rfl rfl, { records with }, within, whole, fun _ => rfl⟩
  | publishing b profile interrupted =>
    exact fun ⟨earlier, e, bursts, at_burst, current, made, bounded, whole, _⟩ =>
      ⟨earlier, e, bursts, at_burst.note rfl rfl rfl rfl rfl, current, made, bounded, whole,
        fun _ => rfl⟩
  | completing | ended =>
    rintro ⟨current, idled | settled⟩
    · exact ⟨current, .inl { idled with }⟩
    · exact ⟨current, .inr { settled with requested := fun _ => rfl }⟩
  | creating | broken message => exact id

theorem Session.Fits.move {p : Params} {sink : Sink} {before store after : PendingStore}
    {j : Journal} {s t : Session} {move : Move} (h : s.Fits p sink before j store)
    (moved : s.move? store move = some (t, after)) : t.Fits p sink before (j.note move) after := by
  cases move with
  | requestStop =>
    cases moved
    exact ⟨h.params, rfl, h.run.requestStop, h.handing⟩
  | event event =>
    obtain ⟨agrees, run, step, rfl, rfl⟩ := Session.step_of_step? moved
    rw [h.params] at step
    have flag : ∀ now, event = .awoke true now → j.stopRequested = true := by
      rintro now rfl
      rw [← h.flag]
      exact (beq_iff_eq.1 agrees).symm
    refine ⟨(Session.deliver_params s store event).trans h.params, ?_, h.run.step step flag, ?_⟩
    · rw [Session.deliver_stopRequested, h.flag]
      cases event <;> rfl
    · have published := publishedProfiles_step h.run step
      have running := step.result?_eq_none
      simp only [published]
      cases step with
      | publishedLast b profile at_phase =>
        rw [at_phase]
        exact h.handing.publish at_phase running rfl
      | published b profile at_phase =>
        rw [at_phase]
        exact h.handing.publish at_phase running (result?_enterBurst p _ _)
      | completed at_phase => exact h.handing.complete running rfl
      | available now at_phase => exact h.handing.quiet running (result?_enterBurst p _ _)
      | started b now at_phase => exact h.handing.quiet running (result?_slotPhase p _ _ _)
      | captured recording met result at_phase =>
        exact h.handing.quiet running (result?_slotPhase p _ _ _)
      | _ => exact h.handing.quiet running rfl

theorem Session.fits_replay? {p : Params} {sink : Sink} {store after : PendingStore} {t : Session}
    {moves : List Move}
    (played : (Session.fresh p sink).replay? store moves = some (t, after)) :
    t.Fits p sink store (.ofMoves moves) after :=
  Session.replay?_induction Journal.note (fun j s now => s.Fits p sink store j now)
    (fun fits moved => fits.move moved) (Session.fits_fresh p sink store) played

def totalSamples (profiles : List Profile) : Nat :=
  (profiles.map (fun q => q.samples.length)).foldr (· + ·) 0

/-- The profiles that a session handed over, once its run has returned. -/
def Session.HandedOver (sink : Sink) (before : PendingStore) (s : Session) (store : PendingStore)
    (profiles : List Profile) : Prop :=
  match sink with
  | .pending => store.profiles = before.profiles ++ profiles ∧ s.delivered = []
  | .custom batch => store = before ∧ s.delivered = [batch ++ profiles]

/-- The accounts of a run that had a capturer and returned. -/
structure Accounts (p : Params) (j : Journal) (s : Summary) : Prop where
  available : s.unavailable = false
  profiles : j.bursts.length = s.profiles
  within : s.profiles ≤ p.bursts.toNat
  /-- Every capture was made in one of the bursts. -/
  captures : j.bursts.flatMap BurstEntry.captures = j.captures
  samples : s.samples = totalSamples (j.bursts.map (BurstEntry.profile p))
  slots : s.samples + s.skipped = j.captures.length
  errors : s.errors = j.captures.countP Capture.failedForGood
  full : ∀ e ∈ j.bursts.dropLast, e.captures.length = p.samplesPerBurst.toNat
  bounded : ∀ e ∈ j.bursts, e.captures.length ≤ p.samplesPerBurst.toNat
  unstopped : s.stopped = false ↔ j.bursts.length = p.bursts.toNat ∧
    ∀ e ∈ j.bursts, e.captures.length = p.samplesPerBurst.toNat
  requested : s.stopped = true → j.stopRequested = true

theorem totalSamples_map (p : Params) (bursts : List BurstEntry) :
    totalSamples (bursts.map (BurstEntry.profile p)) =
      (bursts.flatMap BurstEntry.samples).length := by
  induction bursts with
  | nil => rfl
  | cons e rest ih =>
    rw [List.flatMap_cons, List.length_append, ← ih]
    rfl

theorem length_samples (captures : List Capture) :
    (captures.filterMap Capture.sample?).length + captures.countP Capture.failed =
      captures.length := by
  induction captures with
  | nil => rfl
  | cons c rest ih =>
    rw [List.countP_cons, List.length_cons, ← ih]
    cases answer : c.sample? with
    | some sample =>
      rw [List.filterMap_cons_some answer, List.length_cons, Capture.failed, answer]
      simp only [Option.isNone_some, Bool.false_eq_true, ↓reduceIte]
      omega
    | none =>
      rw [List.filterMap_cons_none answer, Capture.failed, answer]
      simp only [Option.isNone_none, ↓reduceIte]
      omega

theorem flatMap_samples (bursts : List BurstEntry) :
    bursts.flatMap BurstEntry.samples =
      (bursts.flatMap BurstEntry.captures).filterMap Capture.sample? := by
  induction bursts with
  | nil => rfl
  | cons e rest ih =>
    rw [List.flatMap_cons, List.flatMap_cons, List.filterMap_append, ih]
    rfl

theorem phase_of_result? {r : Run} {s : Summary} (returned : r.result? = some s) :
    r.phase = .ended ∧ r.summary = s := by
  unfold Run.result? at returned
  split at returned
  · rename_i ended
    exact ⟨ended, Option.some.inj returned⟩
  · cases returned

theorem Session.Handing.handedOver {sink : Sink} {before store : PendingStore} {s : Session}
    {profiles : List Profile} {summary : Summary} (h : s.Handing sink before store profiles)
    (returned : s.run.result? = some summary) : s.HandedOver sink before store profiles := by
  cases sink with
  | pending => exact ⟨h.2.1, h.2.2⟩
  | custom batch =>
    refine ⟨h.2.1, h.2.2.trans ?_⟩
    rw [returned]
    rfl

theorem Run.Fits.idled_or_accounts {p : Params} {j : Journal} {r : Run} {s : Summary}
    (h : r.Fits p j) (returned : r.result? = some s) :
    Idled j s ∨ (j.capturer = some true ∧ Accounts p j s) := by
  obtain ⟨ended, rfl⟩ := phase_of_result? returned
  have fits := h.phase
  rw [ended] at fits
  obtain ⟨current, idled | settled⟩ := fits
  · exact .inl idled
  · refine .inr ⟨settled.capturer, ?_⟩
    have partition : j.bursts.flatMap BurstEntry.captures = j.captures := by
      have captures := h.captures
      rw [Journal.openCaptures, current] at captures
      exact (captures.trans (List.append_nil _)).symm
    refine ⟨settled.available, settled.profiles.symm, ?_, partition, ?_, ?_, h.errors,
      settled.full, settled.bounded, settled.unstopped, settled.requested⟩
    · rw [settled.profiles]
      exact settled.within
    · rw [totalSamples_map]
      exact settled.samples
    · rw [settled.samples, h.skipped, flatMap_samples, partition]
      exact length_samples j.captures

-- What a session handed over when its run returned: the profiles of its bursts.
theorem Session.Fits.handedOver {p : Params} {sink : Sink} {before store : PendingStore}
    {j : Journal} {s : Session} {summary : Summary} (h : s.Fits p sink before j store)
    (returned : s.run.result? = some summary) :
    s.HandedOver sink before store (j.bursts.map (BurstEntry.profile p)) := by
  have handed := h.handing.handedOver returned
  obtain ⟨ended, rfl⟩ := phase_of_result? returned
  have fits := h.run.phase
  rw [ended] at fits
  have all : publishedProfiles p j s.run.summary = j.bursts.map (BurstEntry.profile p) := by
    unfold publishedProfiles
    obtain ⟨-, idled | settled⟩ := fits
    · rw [idled.bursts, List.take_nil]
    · rw [settled.profiles, List.take_length]
  rw [all] at handed
  exact handed

/-- **The accounts of a run.** Whatever the capturer answers and whenever a stop is requested, a
run that returns has handed over one profile for each of its bursts, made of the captures of that
burst alone, and its counters are those of the captures it made. Without a capturer it has done
nothing. -/
theorem returned_run_accounts {p : Params} {sink : Sink} {store after : PendingStore}
    {moves : List Move} {t : Session} {s : Summary}
    (played : (Session.fresh p sink).replay? store moves = some (t, after))
    (returned : t.run.result? = some s) :
    match (Journal.ofMoves moves).capturer with
    | some true =>
      Accounts p (.ofMoves moves) s ∧
        t.HandedOver sink store after ((Journal.ofMoves moves).bursts.map (BurstEntry.profile p))
    | some false =>
      (Journal.ofMoves moves).calls = 0 ∧ s = { Summary.zero with unavailable := true } ∧
        t.HandedOver sink store after []
    | none => False := by
  have fits := Session.fits_replay? played
  have handed := fits.handedOver returned
  rcases fits.run.idled_or_accounts returned with idled | ⟨capturer, accounts⟩
  · rw [idled.capturer]
    rw [idled.bursts] at handed
    exact ⟨idled.calls, idled.summary, handed⟩
  · rw [capturer]
    exact ⟨accounts, handed⟩

def briefParams : Params := ⟨.zero, 2, .zero, 3, .zero, true⟩

def briefScript : Nat → Capture
  | 0 => ⟨[⟨4096, "feed", ⟨[47, 97]⟩⟩], .ok [⟨4100, some 0⟩]⟩
  | 1 => ⟨[⟨8192, "", ⟨[47, 98]⟩⟩], .error (.io "maps unreadable")⟩
  | 2 => ⟨[⟨4096, "feed", ⟨[47, 97]⟩⟩], .ok []⟩
  | k => ⟨[], .ok [⟨UInt64.ofNat k, none⟩]⟩

def slotMoves (first : Nat) : Nat → List Move
  | 0 => []
  | n + 1 =>
    [.event (.awoke false .origin),
      .event (.captured (briefScript first).met (briefScript first).result)] ++
      slotMoves (first + 1) n

/-- A full burst, and one that a stop cuts short behind its first sample. -/
def interruptedMoves : List Move :=
  [.event (.created true .origin), .event (.awoke false .origin), .event (.started .origin)] ++
    slotMoves 0 3 ++
    [.event (.closed .origin), .event .published, .event (.awoke false .origin),
      .event (.started .origin)] ++
    slotMoves 3 1 ++
    [.requestStop, .event (.awoke true .origin), .event (.closed .origin), .event .published,
      .event .completed]

theorem returned_run_accounts_interrupted :
    ∃ t after, (Session.fresh briefParams (.custom [])).replay? .empty interruptedMoves =
        some (t, after) ∧
      t.run.result? = some ⟨2, 3, 1, 1, true, false⟩ ∧
      Accounts briefParams (.ofMoves interruptedMoves) ⟨2, 3, 1, 1, true, false⟩ ∧
      t.HandedOver (.custom []) .empty after
        ((Journal.ofMoves interruptedMoves).bursts.map (BurstEntry.profile briefParams)) :=
  ⟨_, _, rfl, rfl, @returned_run_accounts briefParams (.custom []) .empty _ interruptedMoves _ _
    rfl rfl⟩

end BurstProfiler.Schedule
