import BurstProfiler.Proofs.Profiler.LoneRun
import BurstProfiler.Proofs.Recording.HotLeaves
import BurstProfiler.Recording.Recorder

/-! What a recorder writes. Its profiler has the store to itself, so what the recorder drains are
the profiles of the run, in the order of its bursts, and it writes those that are valid. The numbers
it reports are those of the tables; they agree with the counters of the run unless a profile was
left out. -/

set_option autoImplicit false

namespace BurstProfiler.Recording

open CommandLine Schedule Profiler

section Persisting

theorem totalSamples_eq (profiles : List Profile) :
    totalSamples profiles = (profiles.flatMap Profile.samples).length := by
  rw [List.length_flatMap]
  rfl

theorem Storage.Shows.setMetadata {s : Storage} {profiles : List Profile} (h : s.Shows profiles)
    (key value : String) : (s.setMetadata key value).Shows profiles := by
  obtain ⟨⟨⟨⟨keyed, cached⟩, ⟨rows, links, samples, frames⟩, same⟩, exact, cache⟩, loaded, counts,
    keys⟩ := h
  exact ⟨⟨⟨⟨keyed, cached⟩, ⟨rows, links, samples, frames⟩, same⟩, exact, cache⟩, loaded, counts,
    keys⟩

theorem Storage.Shows.recordAll {faults : Faults} {s t : Storage} {earlier profiles : List Profile}
    (h : s.Shows earlier) (recorded : s.recordAll faults profiles = .ok t) :
    t.Shows (earlier ++ profiles) := by
  induction profiles generalizing s earlier with
  | nil =>
    cases recorded
    exact (List.append_nil earlier).symm ▸ h
  | cons p rest ih =>
    rw [Storage.recordAll] at recorded
    split at recorded
    · cases recorded
    · rename_i id mid one
      have more := ih (h.record one) recorded
      rw [List.append_assoc] at more
      exact more

theorem Storage.Shows.profileCount {s : Storage} {profiles : List Profile} (h : s.Shows profiles) :
    s.profileCount = profiles.length := by
  rw [Storage.profileCount, ← length_loadProfiles]
  exact h.remembers.holds.loaded.length_eq

/-- What a recorder makes of the profiles that it drained behind a run: it writes the valid ones
and reports how many they are and how many samples they have. -/
structure Persisted (drained : List Profile) (run : Summary) (outcome : Outcome) (s : Storage) :
    Prop where
  loaded : List.Forall₂ (fun loaded p => loaded.same p.recorded = true) s.tables.loadProfiles
    (drained.filter Profile.isValid)
  written : outcome.written = (drained.filter Profile.isValid).length
  samples : outcome.samples = totalSamples (drained.filter Profile.isValid)
  run : outcome.run = run

theorem Recorder.exists_finish {r : Recorder} (fresh : r.storage.Shows []) {run : Summary}
    (available : run.unavailable = false) (store : PendingStore) :
    ∃ outcome s, r.finish .none run store = .ok (outcome, s, .empty) ∧
      Persisted store.profiles run outcome s := by
  obtain ⟨s, recorded⟩ := r.storage.recordAll_none (store.profiles.filter Profile.isValid)
  have shows := fresh.recordAll recorded
  rw [List.nil_append] at shows
  refine ⟨⟨r.output, run, s.profileCount, s.sampleCount⟩, s, ?_, shows.remembers.holds.loaded,
    shows.profileCount, ?_, rfl⟩
  · simp only [finish, available, persist, PendingStore.drain, recorded]
    rfl
  · rw [totalSamples_eq]
    exact shows.samples

end Persisting

section Runs

variable {file : DatabaseFile} {output : Path} {workload : Workload} {thread : ThreadId}
  {params : Params} {origin : Origin} {global left : PendingStore} {r : Recorder}

structure Recorder.Fresh (r : Recorder) (thread : ThreadId) (params : Params) : Prop where
  storage : r.storage.Shows []
  profiler : r.profiler = .create thread params

-- Whatever was in the file and in the store, a recorder begins with neither.
theorem Recorder.fresh_create
    (opened : Recorder.create file output workload thread params origin global = .ok (r, left)) :
    r.Fresh thread params ∧ left = .empty := by
  unfold Recorder.create at opened
  split at opened
  · cases opened
  · rename_i storage created
    cases opened
    have storage_eq : storage = .create thread params origin := by
      cases file <;> cases created <;> rfl
    subst storage_eq
    exact ⟨⟨(Storage.shows_create thread params origin).setMetadata _ _, rfl⟩, rfl⟩

/-- **A recording's numbers agree.** Whatever a recorder drains, if the capturer was there it writes
just the valid profiles, in order, and reports how many they are and how many samples they have.
What it drains behind a run of its own are the profiles of the bursts of the run, in order; and if
all of these are valid, the reported numbers are the counters of the run, wherever it was told to
stop. A run that broke off has no counters, but a recorder samples with the platform's capturer and
delivers to the store, and neither of these breaks a run off. -/
theorem recorder_counts_agree
    (opened : Recorder.create file output workload thread params origin global = .ok (r, left))
    {acts : List Act} {c : Company} (course : LoneRun acts)
    (played : ({ Company.fresh [r.profiler] with store := left } : Company).replay? acts = some c)
    (available : ∀ now, .work 0 (.created false now) ∉ acts) :
    let run := ((c.members[0]?).bind (·.profiler.summary)).getD .zero
    (∀ (run : Summary) (drained : PendingStore), run.unavailable = false →
      ∃ outcome s, r.finish .none run drained = .ok (outcome, s, .empty) ∧
        Persisted drained.profiles run outcome s) ∧
    c.store.profiles = (burstsOf [(thread, params)] 0 acts).map (BurstEntry.profile params) ∧
    ∃ outcome s, r.finish .none run c.store = .ok (outcome, s, .empty) ∧
      Persisted c.store.profiles run outcome s ∧
      ((∀ message, .work 0 (.broke message) ∉ acts) →
        (∀ p ∈ c.store.profiles, p.isValid = true) →
        outcome.written = run.profiles ∧ outcome.samples = run.samples) := by
  intro run
  obtain ⟨fresh, rfl⟩ := Recorder.fresh_create opened
  rw [fresh.profiler] at played
  have alone : (Company.ofTargets [(thread, params)]).replay? acts = some c := played
  have stored := store_of_loneRun course alone
  have there : run.unavailable = false := by
    cases reported : (c.members[0]?).bind (·.profiler.summary) with
    | none => simp only [run, reported, Option.getD_none, Summary.zero]
    | some summary =>
      have accounts := accounts_of_loneRun course alone available reported
      simp only [run, reported, Option.getD_some, accounts.1]
  have finishes := fun (run : Summary) (drained : PendingStore) available =>
    @Recorder.exists_finish r fresh.storage run available drained
  obtain ⟨outcome, s, finished, persisted⟩ := finishes run c.store there
  refine ⟨finishes, stored, outcome, s, finished, persisted, fun unbroken valid => ?_⟩
  obtain ⟨summary, reported⟩ := exists_summary_of_loneRun course alone unbroken
  obtain ⟨-, profiles, samples⟩ := accounts_of_loneRun course alone available reported
  have whole : c.store.profiles.filter Profile.isValid = c.store.profiles :=
    List.filter_eq_self.2 valid
  have same : run = summary := by simp only [run, reported, Option.getD_some]
  rw [persisted.written, persisted.samples, whole, same, profiles, samples, stored, List.length_map]
  exact ⟨rfl, rfl⟩

def twoBursts : Params := ⟨.zero, 2, .zero, 1, .zero, true⟩

def stoppedInSecond : List Act :=
  toLastSlot 0 ++
    [.work 0 (.awoke false .origin),
      .work 0 (.captured [⟨4096, "feed", ⟨[47, 97]⟩⟩] (.ok [⟨4100, some 0⟩])),
      .work 0 (.closed .origin), .work 0 .published, .work 0 (.awoke false .origin),
      .work 0 (.started .origin), .stop 0, .work 0 (.awoke true .origin),
      .work 0 (.closed .origin), .work 0 .published, .work 0 .completed, .wait 0]

theorem loneRun_stoppedInSecond : LoneRun stoppedInSecond :=
  ⟨[], (stoppedInSecond.drop 1).dropLast, rfl, by decide⟩

theorem isValid_stoppedInSecond :
    ((burstsOf [(⟨7⟩, twoBursts)] 0 stoppedInSecond).map
      (BurstEntry.profile twoBursts)).all Profile.isValid = true := rfl

theorem recorder_counts_agree_interrupted :
    ∃ r left c outcome s,
      Recorder.create (.recording .empty) ⟨[47, 120]⟩ .spin ⟨7⟩ twoBursts ⟨"12", "noon"⟩
        ⟨[briefProfile 4096 97]⟩ = .ok (r, left) ∧
      ({ Company.fresh [r.profiler] with store := left } : Company).replay? stoppedInSecond =
        some c ∧
      r.finish .none (((c.members[0]?).bind (·.profiler.summary)).getD .zero) c.store =
        .ok (outcome, s, .empty) ∧
      outcome.written = 2 ∧ outcome.samples = 1 ∧ outcome.run.stopped = true := by
  obtain ⟨c, played, reported⟩ : ∃ c : Company,
      (Company.ofTargets [(⟨7⟩, twoBursts)]).replay? stoppedInSecond = some c ∧
        (c.members[0]?).bind (·.profiler.summary) = some ⟨2, 1, 0, 0, true, false⟩ :=
    ⟨_, rfl, rfl⟩
  obtain ⟨-, stored, outcome, s, finished, persisted, counts⟩ :=
    @recorder_counts_agree (.recording .empty) ⟨[47, 120]⟩ .spin ⟨7⟩ twoBursts ⟨"12", "noon"⟩
      ⟨[briefProfile 4096 97]⟩ _ _ rfl stoppedInSecond c loneRun_stoppedInSecond played
      (by simp [stoppedInSecond, toLastSlot])
  obtain ⟨written, samples⟩ := counts (by simp [stoppedInSecond, toLastSlot])
    (by rw [stored]; exact List.all_eq_true.1 isValid_stoppedInSecond)
  rw [reported] at finished persisted written samples
  refine ⟨_, _, c, outcome, s, rfl, played, ?_, written, samples, ?_⟩
  · rw [reported]
    exact finished
  · rw [persisted.run]
    rfl

end Runs

end BurstProfiler.Recording
