import BurstProfiler.Proofs.Recording.RealOffsets
import Mathlib.Algebra.Order.BigOperators.Group.List
import Mathlib.Algebra.Ring.Int.Defs
import Mathlib.Algebra.Ring.Nat

/-! The totals of a recording. They are counted in one table each, and what is loaded is joined from
all of them; both describe the profiles that were recorded. A stored length of time is never
negative, so the sum of them leaves the signed range at some term just if it does at the end. -/

set_option autoImplicit false

namespace BurstProfiler.Recording

open Number

structure Totals.Of (totals : Totals) (loaded : List Profile) : Prop where
  profiles : totals.profiles = loaded.length
  samples : totals.samples = (loaded.map (fun p => p.samples.length)).sum
  frames : totals.frames = (loaded.map Profile.frameCount).sum
  duration : totals.duration.nanos = (loaded.map (fun p => p.duration.nanos)).sum

section Sums

-- The induction is on the terms; the partial sum is in the range and cannot fall.
theorem signedSum_of_nonneg {total : Int} {ns : List Int} (inside : fitsSigned total = true)
    (nonneg : ∀ n ∈ ns, 0 ≤ n) : signedSum total ns =
      if total + ns.sum ≤ maxSigned then some (total + ns.sum) else none := by
  unfold fitsSigned at inside
  simp only [Bool.and_eq_true, decide_eq_true_eq] at inside
  induction ns generalizing total with
  | nil =>
    rw [List.sum_nil, Int.add_zero, if_pos inside.2]
    rfl
  | cons n rest ih =>
    rw [List.forall_mem_cons] at nonneg
    have behind : 0 ≤ rest.sum := List.sum_nonneg nonneg.2
    have first := nonneg.1
    rw [signedSum, fitsSigned, List.sum_cons, ← Int.add_assoc]
    by_cases fits : total + n ≤ maxSigned
    · have least : minSigned ≤ total + n := by omega
      rw [decide_eq_true least, decide_eq_true fits, ih nonneg.2 ⟨least, fits⟩]
      rfl
    · have beyond : ¬ total + n + rest.sum ≤ maxSigned := by omega
      rw [decide_eq_false fits, Bool.and_false, if_neg beyond]
      rfl

theorem storedMicros_nonneg (d : Duration) : 0 ≤ storedMicros d := by
  unfold storedMicros maxSigned
  omega

theorem nanos_storable (d : Duration) : (d.storable.nanos : Int) = storedMicros d * 1000 := by
  unfold Duration.storable storedMicros maxSigned
  dsimp only
  omega

theorem nanos_loadedDuration {durations : List Duration}
    (fits : (durations.map storedMicros).sum ≤ maxSigned) :
    (loadedDuration (durations.map storedMicros).sum).nanos =
      (durations.map (fun d => d.storable.nanos)).sum := by
  have nonneg : 0 ≤ (durations.map storedMicros).sum :=
    List.sum_nonneg (List.forall_mem_map.2 fun d _ => storedMicros_nonneg d)
  have scaled : (((durations.map (fun d => d.storable.nanos)).sum : Nat) : Int) =
      (durations.map storedMicros).sum * 1000 := by
    clear fits nonneg
    induction durations with
    | nil => rfl
    | cons d rest ih =>
      rw [List.map_cons, List.map_cons, List.sum_cons, List.sum_cons, Int.natCast_add,
        nanos_storable, ih, Int.add_mul]
  unfold maxSigned at fits
  unfold loadedDuration Duration.ofMicros
  dsimp only
  rw [UInt64.toNat_ofNat', Nat.mod_eq_of_lt (by omega)]
  omega

end Sums

section Loaded

theorem map_recordings {α : Type} {f g : Profile → α}
    (same : ∀ earlier p, f (recordedBehind earlier p) = g p) (earlier profiles : List Profile) :
    (recordings earlier profiles).map f = profiles.map g := by
  induction profiles generalizing earlier with
  | nil => rfl
  | cons p rest ih => rw [recordings, List.map_cons, List.map_cons, same, ih]

theorem length_samples_recordedBehind (earlier : List Profile) (p : Profile) :
    (recordedBehind earlier p).samples.length = p.samples.length := by
  rw [samples_recordedBehind, List.length_map]

theorem frameCount_recordedBehind (earlier : List Profile) (p : Profile) :
    (recordedBehind earlier p).frameCount = p.frameCount := by
  unfold Profile.frameCount
  rw [samples_recordedBehind, List.map_map]
  congr 2
  funext sample
  exact List.length_map _

theorem length_framesBehind (first : Int) (modules : Nat) (samples : List Sample) :
    (framesBehind first modules samples).length = (samples.map List.length).sum := by
  induction samples generalizing first with
  | nil => rfl
  | cons frames rest ih =>
    rw [framesBehind, List.length_append, ih, List.map_cons, List.sum_cons, frameRows,
      List.length_map, List.length_zipIdx]

end Loaded

section Rows

structure Storage.Counts (s : Storage) (profiles : List Profile) : Prop where
  shows : s.Shows profiles
  durations : s.tables.profiles.map ProfileRow.durationMicros =
    profiles.map (fun p => storedMicros p.duration)
  frames : s.tables.frames.length = (profiles.map Profile.frameCount).sum

theorem Storage.counts_create (thread : ThreadId) (params : Params) (origin : Origin) :
    (create thread params origin).Counts [] :=
  ⟨shows_create thread params origin, rfl, rfl⟩

variable {s t : Storage} {profiles : List Profile} {p : Profile} {id : Int}

theorem Storage.Counts.record (h : s.Counts profiles) {faults : Faults}
    (recorded : s.record faults p = (.ok id, t)) : t.Counts (profiles ++ [p]) := by
  obtain ⟨ids, more, made, told⟩ := exists_recorded h.shows.remembers.exact recorded
  refine ⟨h.shows.record recorded, ?_, ?_⟩
  · rw [told.tables, Tables.extended, List.map_append, List.map_append, h.durations]
    rfl
  · rw [told.tables, Tables.extended, List.length_append, length_framesBehind, h.frames,
      List.map_append, List.sum_append, List.map_singleton, List.sum_singleton]
    rfl

theorem Storage.Counts.sampleRows (h : s.Counts profiles) : s.tables.samples.length =
    (s.tables.loadProfiles.map (fun p => p.samples.length)).sum := by
  rw [h.shows.samples, h.shows.loaded, map_recordings length_samples_recordedBehind,
    List.length_flatMap]

theorem Storage.Counts.frameRows (h : s.Counts profiles) : s.tables.frames.length =
    (s.tables.loadProfiles.map Profile.frameCount).sum := by
  rw [h.frames, h.shows.loaded, map_recordings frameCount_recordedBehind]

theorem Storage.Counts.totals_eq (h : s.Counts profiles) : s.tables.totals =
    if (profiles.map (fun p => storedMicros p.duration)).sum ≤ maxSigned then
      .ok ⟨s.tables.profiles.length, s.tables.samples.length, s.tables.frames.length,
        loadedDuration (profiles.map (fun p => storedMicros p.duration)).sum⟩
    else .error .integerOverflow := by
  have rows : s.tables.profilesInOrder.map ProfileRow.durationMicros =
      profiles.map (fun p => storedMicros p.duration) := by
    rw [profilesInOrder_of_consistent h.shows.remembers.holds.consistent, h.durations]
  have zero : fitsSigned 0 = true := rfl
  have sum := signedSum_of_nonneg zero
    (List.forall_mem_map.2 fun p (_ : p ∈ profiles) => storedMicros_nonneg p.duration)
  rw [Int.zero_add] at sum
  unfold Tables.totals
  rw [rows, sum]
  by_cases fits : (profiles.map (fun p => storedMicros p.duration)).sum ≤ maxSigned
  · rw [if_pos fits, if_pos fits]
  · rw [if_neg fits, if_neg fits]

theorem Storage.Counts.totals_of (h : s.Counts profiles)
    (fits : (profiles.map (fun p => storedMicros p.duration)).sum ≤ maxSigned) :
    Totals.Of ⟨s.tables.profiles.length, s.tables.samples.length, s.tables.frames.length,
      loadedDuration (profiles.map (fun p => storedMicros p.duration)).sum⟩
      s.tables.loadProfiles := by
  refine ⟨(length_loadProfiles _).symm, h.sampleRows, h.frameRows, ?_⟩
  have stored : ∀ earlier p, (recordedBehind earlier p).duration.nanos =
      p.duration.storable.nanos := fun _ _ => rfl
  have lengths := @nanos_loadedDuration (profiles.map Profile.duration)
  rw [List.map_map, List.map_map] at lengths
  rw [h.shows.loaded, map_recordings stored]
  exact lengths fits

end Rows

section Leaves

variable {t : Tables}

theorem map_samples_mapM_frame {groups : List HotGroup} {frames : List HotFrame}
    (read : groups.mapM HotGroup.frame = .ok frames) :
    frames.map HotFrame.samples = groups.map HotGroup.samples := by
  induction groups generalizing frames with
  | nil =>
    cases read
    rfl
  | cons g rest ih =>
    rw [List.mapM_cons] at read
    cases first : g.frame with
    | error fault =>
      rw [first] at read
      cases read
    | ok f =>
      cases others : rest.mapM HotGroup.frame with
      | error fault =>
        rw [first, others] at read
        cases read
      | ok fs =>
        rw [first, others] at read
        cases read
        have own : f.samples = g.samples := by
          unfold HotGroup.frame at first
          split at first
          · cases first
          · cases first
            rfl
        rw [List.map_cons, List.map_cons, own, ih others]

theorem sum_samples_ranking (t : Tables) :
    (t.ranking.map HotGroup.samples).sum = t.hotKeys.length := by
  have same : t.ranking.Perm t.hotGroups := List.mergeSort_perm _ _
  have counts : t.hotGroups.map HotGroup.samples = t.hotKeys.eraseDups.map t.hotKeys.count := by
    unfold Tables.hotGroups
    rw [List.map_map]
    rfl
  rw [(same.map HotGroup.samples).sum_eq, counts, sum_count_eraseDups]

theorem atLeast_zero (samples : Nat) {total : Nat} (positive : 0 < total) :
    atLeast (percent samples total) .zero = true := by
  obtain ⟨number, place⟩ := Binary64.isNumber_of_le
    (Binary64.ofQuotient_le (roundSignificant (roundSignificant samples * 100))
      (roundSignificant_pos positive))
  have zero : Binary64.zero.isNumber = true ∧ Binary64.zero.place = 0 := by decide
  unfold atLeast percent
  rw [number, zero.1, zero.2, decide_eq_true place]
  rfl

-- A limit that cuts nothing off and a threshold that every share reaches leave all groups.
theorem sum_samples_hotFramesFrom {limit : Nat} {frames : List HotFrame}
    (few : t.hotKeys.length ≤ t.samples.length)
    (all : t.samples.length ≤ limit ∨ 9_223_372_036_854_775_808 ≤ limit)
    (answered : t.hotFramesFrom limit .zero = .ok frames) :
    (frames.map HotFrame.samples).sum = t.hotKeys.length := by
  have groups : firstGroups limit t.ranking = t.ranking := by
    rcases all with enough | unlimited
    · exact firstGroups_of_length_le ((length_ranking_le t).trans (few.trans enough))
    · unfold firstGroups
      rw [if_neg (Nat.not_lt.2 unlimited)]
  rw [Tables.hotFramesFrom, hotFrames_eq_map, groups] at answered
  cases read : t.ranking.mapM HotGroup.frame with
  | error fault =>
    rw [read] at answered
    cases answered
  | ok ranked =>
    rw [read] at answered
    cases answered
    have samples := map_samples_mapM_frame read
    have kept : ranked.filter (fun f => atLeast (percent f.samples t.samples.length) .zero) =
        ranked := by
      apply List.filter_eq_self.2
      intro f member
      have rows := congrArg List.length samples
      rw [List.length_map, List.length_map] at rows
      have some_ : 0 < ranked.length := List.length_pos_of_mem member
      have least := length_ranking_le t
      exact atLeast_zero _ (by omega)
    rw [kept, samples, sum_samples_ranking]

theorem Storage.Shows.hotKeys_length {s : Storage} {profiles : List Profile}
    (h : s.Shows profiles) : s.tables.hotKeys.length =
      (s.tables.loadProfiles.flatMap Profile.samples).countP (fun sample => !sample.isEmpty) := by
  rw [Tables.hotKeys, List.length_map, h.listed, h.loaded, length_flatMap_leafRows,
    List.length_flatMap, List.countP_flatMap]
  congr 1
  exact List.map_congr_left fun p _ => length_leaves p

end Leaves

/-- **The readers agree.** Over whatever was recorded, the totals are there just if the sum of the
stored lengths of time is a signed number of microseconds, and then they are the totals of what is
loaded. The numbers of profiles and samples are so in any case; and the hot frames, if the query
answers and neither limit nor threshold leaves any out, count the loaded samples that are not
empty. -/
theorem readers_agree (thread : ThreadId) (params : Params) (origin : Origin)
    (attempts : List Attempt) :
    let s := (Storage.create thread params origin).attemptAll attempts
    let profiles := (Storage.create thread params origin).succeeded attempts
    let loaded := s.tables.loadProfiles
    ((∃ totals, s.tables.totals = .ok totals) ↔
        (profiles.map (fun p => storedMicros p.duration)).sum ≤ maxSigned) ∧
      (∀ totals, s.tables.totals = .ok totals → totals.Of loaded) ∧
      (∀ fault, s.tables.totals = .error fault → fault = .integerOverflow) ∧
      s.profileCount = loaded.length ∧
      s.sampleCount = (loaded.map (fun p => p.samples.length)).sum ∧
      ∀ limit frames, s.sampleCount ≤ limit ∨ 9_223_372_036_854_775_808 ≤ limit →
        s.tables.hotFramesFrom limit .zero = .ok frames →
        (frames.map HotFrame.samples).sum =
          (loaded.flatMap Profile.samples).countP (fun sample => !sample.isEmpty) := by
  intro s profiles loaded
  have counts : s.Counts profiles :=
    Storage.attemptAll_induction Storage.Counts (fun held recorded => held.record recorded)
      (Storage.counts_create thread params origin) attempts
  have totals := counts.totals_eq
  have rows : s.profileCount = loaded.length := (length_loadProfiles s.tables).symm
  have keys := counts.shows.hotKeys_length
  have few : s.tables.hotKeys.length ≤ s.tables.samples.length := by
    rw [keys, counts.sampleRows, ← List.length_flatMap]
    exact List.countP_le_length
  have hot := fun limit frames => @sum_samples_hotFramesFrom s.tables limit frames few
  rw [keys] at hot
  by_cases fits : (profiles.map (fun p => storedMicros p.duration)).sum ≤ maxSigned
  · rw [if_pos fits] at totals
    refine ⟨⟨fun _ => fits, fun _ => ⟨_, totals⟩⟩, ?_, ?_, rows, counts.sampleRows,
      hot⟩
    · intro found same
      cases totals.symm.trans same
      exact counts.totals_of fits
    · intro fault failed
      cases totals.symm.trans failed
  · rw [if_neg fits] at totals
    refine ⟨⟨fun ⟨found, same⟩ => ?_, fun contrary => absurd contrary fits⟩, ?_, ?_,
      rows, counts.sampleRows, hot⟩
    · cases totals.symm.trans same
    · intro found same
      cases totals.symm.trans same
    · intro fault failed
      cases totals.symm.trans failed
      rfl

/-- The length of time of the first profile is cut to the largest that can be stored; the second
has an empty sample, and a frame whose index is outside its modules. -/
def endlessAttempts : List Attempt :=
  [⟨.none, { briefProfile 4096 97 with duration := .ofSeconds 18446744073709551615 }⟩,
    ⟨.none, { briefProfile 8192 98 with
      duration := .ofMicros 1
      samples := [[⟨8196, some 0⟩, ⟨8200, none⟩], [], [⟨57005, some 7⟩]] }⟩]

-- The first length of time alone fits, and with a microsecond more it does not.
theorem readers_agree_endless :
    let before := (Storage.create ⟨7⟩ .standard ⟨"12", "noon"⟩).attemptAll (endlessAttempts.take 1)
    let s := (Storage.create ⟨7⟩ .standard ⟨"12", "noon"⟩).attemptAll endlessAttempts
    (∃ totals, before.tables.totals = .ok totals ∧ totals.Of before.tables.loadProfiles) ∧
      (¬ ∃ totals, s.tables.totals = .ok totals) ∧
      ∃ frames, s.sampleCount = 5 ∧ s.tables.hotFramesFrom 5 .zero = .ok frames ∧
        (frames.map HotFrame.samples).sum = 3 := by
  intro before s
  obtain ⟨within, of_, -⟩ := readers_agree ⟨7⟩ .standard ⟨"12", "noon"⟩ (endlessAttempts.take 1)
  obtain ⟨beyond, -, -, -, -, hot⟩ := readers_agree ⟨7⟩ .standard ⟨"12", "noon"⟩ endlessAttempts
  obtain ⟨totals, there⟩ := within.2 (by decide +kernel)
  have shows := Storage.attemptAll_induction Storage.Shows
    (fun held recorded => held.record recorded)
    (Storage.shows_create ⟨7⟩ .standard ⟨"12", "noon"⟩) endlessAttempts
  have samples : s.sampleCount = 5 := by decide +kernel
  have fits : ∀ p ∈ (Storage.create ⟨7⟩ .standard ⟨"12", "noon"⟩).succeeded endlessAttempts,
      OffsetsFit p := by decide +kernel
  have answered := hotFrames_of_hotKeys (shows.keys fits) (shows.whole fits) 5
    (fun n => atLeast (percent n s.tables.samples.length) .zero)
  have keys : s.tables.hotKeys.length = 3 := by decide +kernel
  refine ⟨⟨totals, there, of_ totals there⟩, fun found => ?_, _, samples, answered, ?_⟩
  · exact absurd (beyond.1 found) (by decide +kernel)
  · rw [hot 5 _ (.inl (Nat.le_of_eq samples)) answered, ← keys]
    exact shows.hotKeys_length.symm

end BurstProfiler.Recording
