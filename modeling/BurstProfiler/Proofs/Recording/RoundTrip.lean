import BurstProfiler.Proofs.Recording.Atomicity
import BurstProfiler.Proofs.Recording.Loading
import BurstProfiler.Proofs.Validation
import BurstProfiler.Recording.DatabaseFile

/-! What is loaded of a recording are the profiles that were recorded, in their order. A transaction
leaves what is loaded of the profiles before it and adds its own. Loaded profiles are valid,
whatever stands in the tables. -/

set_option autoImplicit false

namespace BurstProfiler.Recording

open Tables

section Validity

theorem mem_regroup {modules : Nat} {rows : List Joined} {frames : Sample} {frame : Frame}
    (sample : frames ∈ regroup modules rows) (member : frame ∈ frames) :
    ∃ row, frame = loadFrame modules row := by
  induction rows generalizing frames with
  | nil => cases sample
  | cons row rest ih =>
    have own : ∀ f ∈ row.frame.toList.map (loadFrame modules),
        ∃ row, f = loadFrame modules row := by
      intro f inside
      obtain ⟨stored, _, rfl⟩ := List.mem_map.1 inside
      exact ⟨stored, rfl⟩
    rw [regroup.eq_def] at sample
    dsimp only at sample
    split at sample
    · rename_i first others found
      split at sample
      · rcases List.mem_cons.1 sample with rfl | later
        · rcases List.mem_append.1 member with here | behind
          · exact own frame here
          · exact ih (found ▸ List.mem_cons_self) behind
        · exact ih (found ▸ List.mem_cons_of_mem _ later) member
      · rcases List.mem_cons.1 sample with rfl | later
        · exact own frame member
        · exact ih (found ▸ later) member
    · rcases List.mem_cons.1 sample with rfl | later
      · exact own frame member
      · exact ih later member

theorem moduleIndex_loadFrame_lt {modules : Nat} {row : FrameRow} {i : Nat}
    (index : (loadFrame modules row).moduleIndex = some i) : i < modules := by
  unfold loadFrame at index
  dsimp only at index
  rw [Option.filter_eq_some_iff] at index
  exact of_decide_eq_true index.2

theorem isValid_loadProfile (t : Tables) (row : ProfileRow) :
    (t.loadProfile row).isValid = true := by
  have none : (t.loadProfile row).badReference? = none := by
    rw [Profile.badReference?_eq_none_iff]
    intro frames sample frame member i index
    obtain ⟨stored, rfl⟩ := mem_regroup sample member
    exact moduleIndex_loadFrame_lt index
  unfold Profile.isValid
  rw [none]
  rfl

end Validity

section Consistency

/-- Profiles stand in the order of their ids, and every row that belongs to another names one that
is there. -/
structure Tables.Consistent (t : Tables) : Prop where
  profiles : (t.profiles.map (·.id)).Pairwise (· < ·)
  links : ∀ link ∈ t.links, link.profile < t.nextProfile ∧
    ∃ row, t.modules.find? (fun row => row.id == link.moduleId) = some row
  samples : ∀ sample ∈ t.samples, sample.profile < t.nextProfile
  frames : ∀ frame ∈ t.frames, frame.sample < t.nextSample

theorem nextId_sampleRows (ids : List Int) (profile : Int) (position : Nat)
    (samples : List Sample) :
    nextId (ids ++ (sampleRows (nextId ids) profile position samples).map (·.id)) =
      nextId ids + samples.length := by
  induction samples generalizing ids position with
  | nil => simp [sampleRows]
  | cons frames rest ih =>
    have later := ih (ids ++ [nextId ids]) (position + 1)
    rw [nextId_concat, List.append_assoc] at later
    rw [sampleRows, List.map_cons, List.length_cons]
    refine Eq.trans later ?_
    omega

variable {t : Tables} {p : Profile} {ids : List Int} {more : List ModuleRow}

theorem exists_named {modules : List Module} (named : List.Forall₂ t.Names ids modules) {id : Int}
    (member : id ∈ ids) : ∃ m, t.Names id m := by
  induction named with
  | nil => cases member
  | cons first rest ih =>
    rcases List.mem_cons.1 member with rfl | later
    · exact ⟨_, first⟩
    · exact ih later

theorem nextId_profiles_extended :
    (t.extended p ids more).nextProfile = t.nextProfile + 1 := by
  unfold nextProfile extended
  rw [List.map_append]
  exact nextId_concat _

theorem find?_extended {id : Int} {row : ModuleRow}
    (found : t.modules.find? (fun row => row.id == id) = some row) :
    (t.extended p ids more).modules.find? (fun row => row.id == id) = some row := by
  unfold extended
  rw [List.find?_append, found, Option.some_or]

theorem Tables.Consistent.extended (h : t.Consistent)
    (named : List.Forall₂ (t.extended p ids more).Names ids p.modules) :
    (t.extended p ids more).Consistent where
  profiles := by
    unfold Tables.extended
    rw [List.map_append]
    exact pairwise_concat_nextId h.profiles
  links := by
    intro link member
    rw [nextId_profiles_extended]
    rcases List.mem_append.1 member with old | new
    · obtain ⟨small, row, found⟩ := h.links link old
      exact ⟨by omega, row, find?_extended found⟩
    · obtain ⟨⟨id, ordinal⟩, entry, rfl⟩ := List.mem_map.1 new
      obtain ⟨m, row, found, _⟩ := exists_named named (List.fst_mem_of_mem_zipIdx entry)
      exact ⟨Int.lt_add_one_of_le (Int.le_refl _), row, found⟩
  samples := by
    intro sample member
    rw [nextId_profiles_extended]
    rcases List.mem_append.1 member with old | new
    · have small := h.samples sample old
      omega
    · rw [(mem_sampleRows new).2.1]
      omega
  frames := by
    intro frame member
    have next : (t.extended p ids more).nextSample = t.nextSample + p.samples.length := by
      unfold Tables.nextSample Tables.extended
      rw [List.map_append]
      exact nextId_sampleRows _ _ _ _
    rw [next]
    rcases List.mem_append.1 member with old | new
    · have small := h.frames frame old
      omega
    · exact (mem_framesBehind new).2

end Consistency

section Profiles

variable {t : Tables} {p : Profile} {ids : List Int} {more : List ModuleRow}

theorem profilesInOrder_of_consistent (h : t.Consistent) : t.profilesInOrder = t.profiles := by
  apply List.mergeSort_of_pairwise
  apply (List.pairwise_map.1 h.profiles).imp
  intro a b less
  exact decide_eq_true (Int.le_of_lt less)

theorem length_loadProfiles (t : Tables) : t.loadProfiles.length = t.profiles.length := by
  unfold loadProfiles profilesInOrder
  rw [List.length_map, List.length_mergeSort]

theorem loadModules_extended (h : t.Consistent) {id : Int}
    (old : id ≠ t.nextProfile) :
    (t.extended p ids more).loadModules id = t.loadModules id := by
  have others : ∀ link ∈ linkRows t.nextProfile ids, link.profile ≠ id := by
    intro link member
    obtain ⟨_, _, rfl⟩ := List.mem_map.1 member
    exact old.symm
  unfold loadModules
  congr 1
  have links : (t.extended p ids more).links.filter (fun link => link.profile == id) =
      t.links.filter (fun link => link.profile == id) := by
    unfold extended
    rw [List.filter_append, filter_others others, List.append_nil]
  rw [links]
  apply List.filterMap_congr
  intro link member
  have there := List.mem_of_mem_filter (List.mem_mergeSort.1 member)
  obtain ⟨_, row, found⟩ := h.links link there
  rw [found]
  exact find?_extended found

theorem framesOf_extended {sample : Int} (old : sample < t.nextSample) :
    (t.extended p ids more).framesOf sample = t.framesOf sample := by
  have others : ∀ row ∈ framesBehind t.nextSample p.modules.length p.samples,
      row.sample ≠ sample := by
    intro row member
    have behind := (mem_framesBehind member).1
    omega
  unfold framesOf extended
  rw [List.filter_append, filter_others others, List.append_nil]

theorem joinedRows_extended {id : Int} (old : id ≠ t.nextProfile) :
    (t.extended p ids more).joinedRows id = t.joinedRows id := by
  have others : ∀ row ∈ sampleRows t.nextSample t.nextProfile 0 p.samples,
      row.profile ≠ id := by
    intro row member own
    exact old (own.symm.trans (mem_sampleRows member).2.1)
  unfold joinedRows
  have samples : (t.extended p ids more).samples.filter (fun row => row.profile == id) =
      t.samples.filter (fun row => row.profile == id) := by
    unfold extended
    rw [List.filter_append, filter_others others, List.append_nil]
  rw [samples]
  dsimp only
  congr 1
  rw [List.flatMap_def, List.flatMap_def]
  congr 1
  apply List.map_congr_left
  intro row member
  have there := List.mem_of_mem_filter (List.mem_mergeSort.1 member)
  rw [framesOf_extended (lt_nextId (List.mem_map_of_mem there))]

theorem loadProfile_extended (h : t.Consistent) {row : ProfileRow} (old : row ∈ t.profiles) :
    (t.extended p ids more).loadProfile row = t.loadProfile row := by
  have other : row.id ≠ t.nextProfile :=
    Int.ne_of_lt (lt_nextId (List.mem_map_of_mem old))
  unfold loadProfile
  rw [loadModules_extended h other, joinedRows_extended other]

theorem same_of_loaded {loaded : List Module} {modules : List Module}
    (each : List.Forall₂ (fun l m => l.same m.recorded = true) loaded modules) :
    (loaded.zip (modules.map Module.recorded)).all (fun pair => pair.1.same pair.2) = true := by
  induction each with
  | nil => rfl
  | cons first rest ih =>
    rw [List.map_cons, List.zip_cons_cons, List.all_cons, first, ih]
    rfl

theorem loadProfile_linked (h : t.Consistent)
    (number : ((t.extended p ids more).loadModules t.nextProfile).length = p.modules.length) :
    (t.extended p ids more).loadProfile (profileRow t.nextProfile p) =
      { p.recorded with modules := (t.extended p ids more).loadModules t.nextProfile } := by
  have samplesAre : (t.extended p ids more).samples = t.samples ++
      sampleRows t.nextSample t.nextProfile 0 p.samples := rfl
  have framesAre : (t.extended p ids more).frames = t.frames ++
      framesBehind t.nextSample p.modules.length p.samples := rfl
  have samples := joinedRows_written samplesAre
    (fun row member => Int.ne_of_lt (h.samples row member)) framesAre h.frames
  unfold loadProfile profileRow Profile.recorded
  dsimp only
  rw [samples, number, regroup_joinSamples, loadedDuration_storedMicros,
    loadedDuration_storedMicros, preserved_flag]

theorem loadProfile_new (h : t.Consistent)
    (named : List.Forall₂ (t.extended p ids more).Names ids p.modules) :
    ((t.extended p ids more).loadProfile (profileRow t.nextProfile p)).same
      p.recorded = true := by
  have linksAre : (t.extended p ids more).links =
      t.links ++ linkRows t.nextProfile ids := rfl
  have modules := loadModules_written linksAre
    (fun link member => Int.ne_of_lt (h.links link member).1) named
  have number := modules.length_eq
  rw [loadProfile_linked h number]
  unfold Profile.same Profile.recorded
  dsimp only
  rw [number, List.length_map, same_of_loaded modules]
  simp

theorem loadProfiles_extended (h : t.Consistent) (behind : (t.extended p ids more).Consistent) :
    (t.extended p ids more).loadProfiles =
      t.loadProfiles ++ [(t.extended p ids more).loadProfile (profileRow t.nextProfile p)] := by
  have profilesAre : (t.extended p ids more).profiles =
      t.profiles ++ [profileRow t.nextProfile p] := rfl
  have older : t.profiles.map (t.extended p ids more).loadProfile =
      t.profiles.map t.loadProfile := by
    apply List.map_congr_left
    intro row member
    exact loadProfile_extended h member
  unfold loadProfiles
  rw [profilesInOrder_of_consistent h, profilesInOrder_of_consistent behind, profilesAre,
    List.map_append, older]
  rfl

end Profiles

section Runs

/-- A storage whose recording reads as a list of profiles. -/
structure Storage.Holds (s : Storage) (profiles : List Profile) : Prop where
  sound : s.Sound
  consistent : s.tables.Consistent
  loaded : List.Forall₂ (fun l p => l.same p.recorded = true) s.tables.loadProfiles profiles

theorem Storage.holds_create (thread : ThreadId) (params : Params) (origin : Origin) :
    (create thread params origin).Holds [] := by
  have consistent : (create thread params origin).tables.Consistent :=
    ⟨List.Pairwise.nil, fun _ member => absurd member List.not_mem_nil,
      fun _ member => absurd member List.not_mem_nil,
      fun _ member => absurd member List.not_mem_nil⟩
  refine ⟨sound_create thread params origin, consistent, ?_⟩
  unfold loadProfiles
  rw [profilesInOrder_of_consistent consistent]
  exact .nil

theorem Storage.Holds.record {s t : Storage} {profiles : List Profile} (h : s.Holds profiles)
    {faults : Faults} {p : Profile} {id : Int} (recorded : s.record faults p = (.ok id, t)) :
    t.Holds (profiles ++ [p]) := by
  have sound : t.Sound := by
    have kept := h.sound.record faults p
    rw [recorded] at kept
    exact kept
  unfold Storage.record at recorded
  split at recorded
  · cases recorded
  · rename_i made tables ran
    cases recorded
    obtain ⟨ids, more, written⟩ := written_of_transaction h.sound ran
    obtain rfl := written.tables
    have consistent := h.consistent.extended written.named
    refine ⟨sound, consistent, ?_⟩
    rw [loadProfiles_extended h.consistent consistent]
    exact List.rel_append h.loaded (.cons (loadProfile_new h.consistent written.named) .nil)

-- What holds of a storage and the profiles recorded in it, and stays so with every call that goes
-- through, holds behind any calls.
theorem Storage.attemptAll_induction (holds : Storage → List Profile → Prop)
    (kept : ∀ {s t : Storage} {profiles : List Profile} {faults : Faults} {p : Profile} {id : Int},
      holds s profiles → s.record faults p = (.ok id, t) → holds t (profiles ++ [p]))
    {s : Storage} {profiles : List Profile} (first : holds s profiles)
    (attempts : List Attempt) :
    holds (s.attemptAll attempts) (profiles ++ s.succeeded attempts) := by
  induction attempts generalizing s profiles with
  | nil =>
    rw [succeeded, List.append_nil]
    exact first
  | cons a rest ih =>
    rw [Storage.attemptAll, succeeded]
    split
    · rename_i fault t failed
      rw [failed]
      have same : t = s := record_error failed
      exact same ▸ ih first
    · rename_i id t recorded
      rw [recorded]
      have more := ih (kept first recorded)
      rw [List.append_assoc] at more
      exact more

theorem Storage.Holds.attemptAll {s : Storage} {profiles : List Profile} (h : s.Holds profiles)
    (attempts : List Attempt) :
    (s.attemptAll attempts).Holds (profiles ++ s.succeeded attempts) :=
  attemptAll_induction Holds (fun held recorded => held.record recorded) h attempts

/-- **Storage round trip.** What is loaded of a recording that was opened over anything are the
profiles that were recorded since, in order, each as it can be stored, and all of them are valid.
Calls that failed in between leave no trace. -/
theorem loadProfiles_succeeded {file : DatabaseFile} {path : String} {thread : ThreadId}
    {params : Params} {origin : Origin} {s : Storage}
    (opened : file.create path thread params origin = .ok s) (attempts : List Attempt) :
    List.Forall₂ (fun loaded p => loaded.same p.recorded = true)
        (s.attemptAll attempts).tables.loadProfiles (s.succeeded attempts) ∧
      ∀ loaded ∈ (s.attemptAll attempts).tables.loadProfiles, loaded.isValid = true := by
  obtain rfl := DatabaseFile.eq_of_create opened
  have holds := (Storage.holds_create thread params origin).attemptAll attempts
  refine ⟨holds.loaded, ?_⟩
  intro loaded member
  obtain ⟨row, _, rfl⟩ := List.mem_map.1 member
  exact isValid_loadProfile _ row

def earlierTables : Tables where
  metadata := [("version", "2")]
  profiles := [⟨1, 20000, 10000, 0⟩]
  modules := [⟨1, 4096, "old", "/old"⟩]
  links := [⟨1, 0, 1⟩]
  samples := [⟨1, 1, 0⟩]
  frames := [⟨1, 0, 4100, some 0⟩]

theorem loadProfiles_succeeded_over_earlier :
    ∃ s, (DatabaseFile.recording earlierTables).create "a.db" ⟨7⟩ .standard ⟨"12", "noon"⟩ =
        .ok s ∧
      s.succeeded briefAttempts = [briefProfile 8192 98, briefProfile 8192 98] ∧
      List.Forall₂ (fun loaded p => loaded.same p.recorded = true)
        (s.attemptAll briefAttempts).tables.loadProfiles (s.succeeded briefAttempts) ∧
      ∀ loaded ∈ (s.attemptAll briefAttempts).tables.loadProfiles, loaded.isValid = true :=
  ⟨_, rfl, by decide +kernel, @loadProfiles_succeeded (.recording earlierTables) "a.db" ⟨7⟩ .standard
    ⟨"12", "noon"⟩ _ rfl briefAttempts⟩

end Runs

end BurstProfiler.Recording
