import BurstProfiler.Proofs.LossyPaths
import BurstProfiler.Recording.Storage
import Mathlib.Data.List.Forall2

/-! What a transaction that goes through leaves in the tables, whatever else could have failed:
rows behind those that were there, under ids that no row had, and ids of modules that name the
profile's modules. -/

set_option autoImplicit false

namespace BurstProfiler.Recording

section Ids

theorem le_foldl_max (ids : List Int) (n : Int) :
    n ≤ ids.foldl max n ∧ ∀ id ∈ ids, id ≤ ids.foldl max n := by
  induction ids generalizing n with
  | nil => exact ⟨Int.le_refl n, fun _ member => absurd member List.not_mem_nil⟩
  | cons first rest ih =>
    obtain ⟨start, behind⟩ := ih (max n first)
    refine ⟨Int.le_trans (Int.le_max_left n first) start, ?_⟩
    intro id member
    rcases List.mem_cons.1 member with rfl | later
    · exact Int.le_trans (Int.le_max_right n id) start
    · exact behind id later

theorem lt_nextId {ids : List Int} {id : Int} (member : id ∈ ids) : id < nextId ids :=
  Int.lt_add_one_of_le ((le_foldl_max ids 0).2 id member)

theorem nextId_concat (ids : List Int) : nextId (ids ++ [nextId ids]) = nextId ids + 1 := by
  have larger : max (ids.foldl max 0) (nextId ids) = nextId ids := by
    unfold nextId
    omega
  rw [nextId, List.foldl_append, List.foldl_cons, List.foldl_nil, larger]

theorem pairwise_concat_nextId {ids : List Int} (increasing : ids.Pairwise (· < ·)) :
    (ids ++ [nextId ids]).Pairwise (· < ·) := by
  rw [List.pairwise_append]
  refine ⟨increasing, List.pairwise_singleton _ _, ?_⟩
  intro id member next last
  rw [List.mem_singleton] at last
  exact last ▸ lt_nextId member

-- Increasing ids are keys: a row is what the search for its id finds.
theorem find?_of_increasing {α : Type} {rows : List α} {key : α → Int}
    (increasing : (rows.map key).Pairwise (· < ·)) {row : α} (member : row ∈ rows) :
    rows.find? (fun other => key other == key row) = some row := by
  induction rows with
  | nil => cases member
  | cons first rest ih =>
    rw [List.map_cons, List.pairwise_cons] at increasing
    rcases List.mem_cons.1 member with rfl | later
    · exact List.find?_cons_of_pos (beq_self_eq_true _)
    · have smaller := increasing.1 (key row) (List.mem_map_of_mem later)
      have other : ¬ (key first == key row) = true := by
        rw [beq_iff_eq]
        omega
      rw [List.find?_cons_of_neg (p := fun other => key other == key row) other]
      exact ih increasing.2 later

end Ids

def Tables.nextProfile (t : Tables) : Int := nextId (t.profiles.map (·.id))

def Tables.nextSample (t : Tables) : Int := nextId (t.samples.map (·.id))

section Modules

/-- A row that holds a module; its path may be written another way. -/
structure ModuleRow.Describes (row : ModuleRow) (m : Module) : Prop where
  base : row.base = signed m.base
  buildId : row.buildId = m.buildId
  path : (Path.ofString row.path).same (.ofString m.path.display) = true

theorem ModuleRow.Describes.of_same {row : ModuleRow} {a b : Module} (h : row.Describes a)
    (same : a.same b = true) : row.Describes b := by
  unfold Module.same at same
  simp only [Bool.and_eq_true, beq_iff_eq] at same
  obtain ⟨⟨base, buildId⟩, path⟩ := same
  have texts : (Path.ofString a.path.display).same (.ofString b.path.display) = true := by
    unfold Path.ofString Path.display
    rw [String.toList_ofList, String.toList_ofList]
    exact Path.same_lossy path
  exact ⟨base ▸ h.base, buildId ▸ h.buildId, Path.same_trans h.path texts⟩

def Tables.Names (t : Tables) (id : Int) (m : Module) : Prop :=
  ∃ row, t.modules.find? (fun row => row.id == id) = some row ∧ row.Describes m

def Tables.Keyed (t : Tables) : Prop := (t.modules.map (·.id)).Pairwise (· < ·)

def Tables.withModules (t : Tables) (more : List ModuleRow) : Tables :=
  { t with modules := t.modules ++ more }

theorem Tables.Names.grow {t : Tables} {id : Int} {m : Module} (h : t.Names id m)
    (more : List ModuleRow) : (t.withModules more).Names id m := by
  obtain ⟨row, found, describes⟩ := h
  refine ⟨row, ?_, describes⟩
  unfold withModules
  rw [List.find?_append, found, Option.some_or]

theorem Tables.withModules_nil (t : Tables) : t.withModules [] = t := by
  unfold withModules
  rw [List.append_nil]

theorem Tables.withModules_append (t : Tables) (more rest : List ModuleRow) :
    (t.withModules more).withModules rest = t.withModules (more ++ rest) := by
  unfold withModules
  rw [List.append_assoc]

theorem cached?_names {t : Tables} {cache : List CacheEntry}
    (sound : ∀ entry ∈ cache, t.Names entry.2 entry.1) {m : Module} {id : Int}
    (known : cached? cache m = some id) : t.Names id m := by
  unfold cached? at known
  rw [Option.map_eq_some_iff] at known
  obtain ⟨entry, found, rfl⟩ := known
  have same := List.find?_some found
  obtain ⟨row, place, describes⟩ := sound entry (List.mem_of_find?_eq_some found)
  exact ⟨row, place, describes.of_same same⟩

end Modules

section Statements

theorem ok_of_bind {α β : Type} {x : Except EngineFault α} {f : α → Except EngineFault β} {b : β}
    (h : (x >>= f) = .ok b) : ∃ a, x = .ok a ∧ f a = .ok b := by
  cases x with
  | error fault => cases h
  | ok a => exact ⟨a, rfl, h⟩

variable {faults : Faults} {d d' : Draft}

theorem Draft.tables_run {s : Statement} (ran : d.run faults s = .ok d') :
    d'.tables = d.tables.apply s := by
  unfold run at ran
  split at ran
  · cases ran
  · cases ran
    rfl

theorem Draft.tables_runAll {statements : List Statement}
    (ran : d.runAll faults statements = .ok d') :
    d'.tables = statements.foldl Tables.apply d.tables := by
  induction statements generalizing d with
  | nil => cases ran; rfl
  | cons s rest ih =>
    rw [runAll] at ran
    obtain ⟨mid, one, others⟩ := ok_of_bind ran
    rw [ih others, tables_run one]
    rfl

def linkRows (profile : Int) (moduleIds : List Int) : List LinkRow :=
  moduleIds.zipIdx.map (fun entry => ⟨profile, entry.2, entry.1⟩)

def frameRow (sample : Int) (modules : Nat) (frame : Frame) (depth : Nat) : FrameRow :=
  ⟨sample, depth, signed frame.instructionPointer,
    (frame.moduleIndex.filter (· < modules)).map Int.ofNat⟩

def frameRows (sample : Int) (modules : Nat) (frames : Sample) : List FrameRow :=
  frames.zipIdx.map (fun entry => frameRow sample modules entry.1 entry.2)

theorem linkStatements_eq (profile : Int) (moduleIds : List Int) :
    linkStatements profile moduleIds = (linkRows profile moduleIds).map .insertLink := by
  unfold linkStatements linkRows
  rw [List.map_map]
  rfl

theorem frameStatements_eq (sample : Int) (modules : Nat) (frames : Sample) :
    frameStatements sample modules frames = (frameRows sample modules frames).map .insertFrame := by
  unfold frameStatements frameRows
  rw [List.map_map]
  rfl

theorem foldl_insertLink (t : Tables) (rows : List LinkRow) :
    (rows.map .insertLink).foldl Tables.apply t = { t with links := t.links ++ rows } := by
  induction rows generalizing t with
  | nil => simp
  | cons row rest ih =>
    rw [List.map_cons, List.foldl_cons, ih, Tables.apply]
    simp

theorem foldl_insertFrame (t : Tables) (rows : List FrameRow) :
    (rows.map .insertFrame).foldl Tables.apply t = { t with frames := t.frames ++ rows } := by
  induction rows generalizing t with
  | nil => simp
  | cons row rest ih =>
    rw [List.map_cons, List.foldl_cons, ih, Tables.apply]
    simp

def sampleRows (first profile : Int) (position : Nat) : List Sample → List SampleRow
  | [] => []
  | _ :: rest => ⟨first, profile, position⟩ :: sampleRows (first + 1) profile (position + 1) rest

def framesBehind (first : Int) (modules : Nat) : List Sample → List FrameRow
  | [] => []
  | frames :: rest => frameRows first modules frames ++ framesBehind (first + 1) modules rest

theorem Draft.tables_writeSamples {profile : Int} {modules position : Nat} {samples : List Sample}
    (ran : d.writeSamples faults profile modules position samples = .ok d') :
    d'.tables = { d.tables with
      samples := d.tables.samples ++ sampleRows d.tables.nextSample profile position samples
      frames := d.tables.frames ++ framesBehind d.tables.nextSample modules samples } := by
  induction samples generalizing d position with
  | nil =>
    cases ran
    simp [sampleRows, framesBehind]
  | cons frames rest ih =>
    rw [writeSamples] at ran
    obtain ⟨inserted, one, ran⟩ := ok_of_bind ran
    obtain ⟨filled, all, ran⟩ := ok_of_bind ran
    have grown := tables_run one
    have framed := tables_runAll all
    rw [frameStatements_eq, foldl_insertFrame, grown] at framed
    have next : filled.tables.nextSample = d.tables.nextSample + 1 := by
      unfold Tables.nextSample
      rw [framed]
      simp only [Tables.apply, List.map_append, List.map_singleton]
      exact nextId_concat _
    rw [ih ran, next, framed]
    simp [Tables.apply, Tables.nextSample, sampleRows, framesBehind]

structure Readied (t : Tables) (id : Int) (m : Module) (t' : Tables) : Prop where
  grown : ∃ more, t' = t.withModules more
  keyed : t'.Keyed
  named : t'.Names id m

theorem keyed_ensureModule {t : Tables} (keyed : t.Keyed) (base : Int) (buildId path : String) :
    (∃ more, t.apply (.ensureModule base buildId path) = t.withModules more) ∧
      (t.apply (.ensureModule base buildId path)).Keyed := by
  unfold Tables.apply
  dsimp only
  split
  · exact ⟨⟨[], t.withModules_nil.symm⟩, keyed⟩
  · refine ⟨⟨_, rfl⟩, ?_⟩
    unfold Tables.Keyed
    rw [List.map_append]
    exact pairwise_concat_nextId keyed

theorem Draft.readied_of_ensure {m : Module} {id : Int} (keyed : d.tables.Keyed)
    (ran : d.ensure faults m = .ok (id, d')) : Readied d.tables id m d'.tables := by
  rw [ensure] at ran
  obtain ⟨inserted, one, ran⟩ := ok_of_bind ran
  obtain ⟨searched, two, ran⟩ := ok_of_bind ran
  obtain ⟨grown, keyed'⟩ := keyed_ensureModule keyed (signed m.base) m.buildId (storedPath m)
  have same : searched.tables = inserted.tables := tables_run two
  rw [← tables_run one, ← same] at grown keyed'
  split at ran
  · rename_i row found
    cases ran
    have fields := List.find?_some found
    simp only [Bool.and_eq_true, beq_iff_eq] at fields
    obtain ⟨⟨base, buildId⟩, path⟩ := fields
    refine ⟨grown, keyed', row, ?_, base, buildId, ?_⟩
    · exact find?_of_increasing keyed' (List.mem_of_find?_eq_some found)
    · rw [path]
      exact Path.same_refl _
  · cases ran

structure ReadiedAll (t : Tables) (ids : List Int) (made : List CacheEntry) (modules : List Module)
    (t' : Tables) : Prop where
  grown : ∃ more, t' = t.withModules more
  keyed : t'.Keyed
  named : List.Forall₂ t'.Names ids modules
  made : ∀ entry ∈ made, t'.Names entry.2 entry.1

theorem Draft.readied_of_ensureAll {cache : List CacheEntry} {modules : List Module}
    {ids : List Int} {made : List CacheEntry} (keyed : d.tables.Keyed)
    (sound : ∀ entry ∈ cache, d.tables.Names entry.2 entry.1)
    (ran : d.ensureAll faults cache modules = .ok (ids, made, d')) :
    ReadiedAll d.tables ids made modules d'.tables := by
  induction modules generalizing d ids made with
  | nil =>
    cases ran
    exact ⟨⟨[], (Tables.withModules_nil _).symm⟩, keyed, .nil,
      fun _ member => absurd member List.not_mem_nil⟩
  | cons m rest ih =>
    rw [ensureAll] at ran
    split at ran
    · rename_i id known
      obtain ⟨⟨others, more, last⟩, behind, ran⟩ := ok_of_bind ran
      cases ran
      have later := ih keyed sound behind
      obtain ⟨rows, grown⟩ := later.grown
      have named := (cached?_names sound known).grow rows
      rw [← grown] at named
      exact ⟨later.grown, later.keyed, .cons named later.named, later.made⟩
    · obtain ⟨⟨id, mid⟩, one, ran⟩ := ok_of_bind ran
      obtain ⟨⟨others, more, last⟩, behind, ran⟩ := ok_of_bind ran
      cases ran
      have first := readied_of_ensure keyed one
      obtain ⟨row, started⟩ := first.grown
      have later := ih first.keyed
        (fun entry member => started ▸ (sound entry member).grow row) behind
      obtain ⟨rows, grown⟩ := later.grown
      have named := first.named.grow rows
      rw [← grown] at named
      refine ⟨⟨row ++ rows, ?_⟩, later.keyed, .cons named later.named, ?_⟩
      · rw [grown, started, Tables.withModules_append]
      · intro entry member
        rcases List.mem_cons.1 member with rfl | other
        · exact named
        · exact later.made entry other

end Statements

section Transactions

def profileRow (id : Int) (p : Profile) : ProfileRow :=
  ⟨id, storedMicros p.duration, storedMicros p.period, if p.preservesOrder then 1 else 0⟩

/-- The tables behind the transaction of a profile whose modules have the given ids, some of them
those of new rows. -/
def Tables.extended (t : Tables) (p : Profile) (ids : List Int) (more : List ModuleRow) : Tables :=
  { t with
    profiles := t.profiles ++ [profileRow t.nextProfile p]
    modules := t.modules ++ more
    links := t.links ++ linkRows t.nextProfile ids
    samples := t.samples ++ sampleRows t.nextSample t.nextProfile 0 p.samples
    frames := t.frames ++ framesBehind t.nextSample p.modules.length p.samples }

structure Written (t : Tables) (p : Profile) (ids : List Int) (more : List ModuleRow)
    (made : List CacheEntry) (t' : Tables) : Prop where
  tables : t' = t.extended p ids more
  keyed : t'.Keyed
  named : List.Forall₂ t'.Names ids p.modules
  made : ∀ entry ∈ made, t'.Names entry.2 entry.1

/-- Module rows have keys, and what the cache remembers are rows of the modules. -/
structure Storage.Sound (s : Storage) : Prop where
  keyed : s.tables.Keyed
  cached : ∀ entry ∈ s.cache, s.tables.Names entry.2 entry.1

variable {faults : Faults} {s : Storage} {p : Profile}

-- A transaction that goes through adds the profile's row, readies its modules, and adds the rows
-- that belong to them.
theorem Storage.ensured_of_transaction {id : Int} {made : List CacheEntry} {t' : Tables}
    (ran : s.transaction faults p = .ok (id, made, t')) :
    ∃ (headed readied : Draft) (ids : List Int),
      headed.tables = { s.tables with
        profiles := s.tables.profiles ++ [profileRow s.tables.nextProfile p] } ∧
      headed.ensureAll faults s.cache p.modules = .ok (ids, made, readied) ∧
      t' = { readied.tables with
        links := readied.tables.links ++ linkRows s.tables.nextProfile ids
        samples := readied.tables.samples ++
          sampleRows readied.tables.nextSample s.tables.nextProfile 0 p.samples
        frames := readied.tables.frames ++
          framesBehind readied.tables.nextSample ids.length p.samples } := by
  unfold transaction at ran
  obtain ⟨opened, started, ran⟩ := ok_of_bind ran
  obtain ⟨headed, inserted, ran⟩ := ok_of_bind ran
  obtain ⟨⟨ids, entries, readied⟩, ensured, ran⟩ := ok_of_bind ran
  obtain ⟨prepared, linking, ran⟩ := ok_of_bind ran
  obtain ⟨linked, links, ran⟩ := ok_of_bind ran
  obtain ⟨sampling, preparedSamples, ran⟩ := ok_of_bind ran
  obtain ⟨framing, preparedFrames, ran⟩ := ok_of_bind ran
  obtain ⟨filled, samples, ran⟩ := ok_of_bind ran
  obtain ⟨committed, commit, ran⟩ := ok_of_bind ran
  cases ran
  have start : opened.tables = s.tables := Draft.tables_run started
  refine ⟨headed, readied, ids, ?_, ensured, ?_⟩
  · rw [Draft.tables_run inserted, start]
    rfl
  · have same : framing.tables = linked.tables :=
      (Draft.tables_run preparedFrames).trans (Draft.tables_run preparedSamples)
    have before : prepared.tables = readied.tables := Draft.tables_run linking
    have written := Draft.tables_writeSamples samples
    rw [same, Draft.tables_runAll links, linkStatements_eq, foldl_insertLink, before,
      start] at written
    rw [Draft.tables_run commit]
    exact written

theorem Storage.written_of_transaction (sound : s.Sound) {id : Int} {made : List CacheEntry}
    {t' : Tables} (ran : s.transaction faults p = .ok (id, made, t')) :
    ∃ ids more, Written s.tables p ids more made t' := by
  obtain ⟨headed, readied, ids, head, ensured, last⟩ := ensured_of_transaction ran
  have ready : ReadiedAll headed.tables ids made p.modules readied.tables := by
    apply Draft.readied_of_ensureAll _ _ ensured <;> rw [head]
    · exact sound.keyed
    · exact sound.cached
  obtain ⟨more, grown⟩ := ready.grown
  have number : ids.length = p.modules.length := ready.named.length_eq
  have modules : t'.modules = readied.tables.modules := by rw [last]
  have names : t'.Names = readied.tables.Names := by
    unfold Tables.Names
    rw [modules]
  refine ⟨ids, more, ?_, ?_, names ▸ ready.named, names ▸ ready.made⟩
  · rw [last, grown, head, number]
    rfl
  · unfold Tables.Keyed
    rw [modules]
    exact ready.keyed

-- A call that failed changes nothing; one that went through adds its own entries to the cache, and
-- those made before keep the rows they had.
theorem Storage.Sound.record (sound : s.Sound) (faults : Faults) (p : Profile) :
    (s.record faults p).2.Sound := by
  unfold Storage.record
  split
  · exact sound
  · rename_i id made t' ran
    obtain ⟨ids, more, written⟩ := written_of_transaction sound ran
    refine ⟨written.keyed, ?_⟩
    intro entry member
    rcases List.mem_append.1 member with new | old
    · exact written.made entry (List.mem_reverse.1 new)
    · have kept := (sound.cached entry old).grow more
      rw [written.tables]
      exact kept

theorem Storage.sound_create (thread : ThreadId) (p : Params) (origin : Origin) :
    (create thread p origin).Sound :=
  ⟨List.Pairwise.nil, fun _ member => absurd member List.not_mem_nil⟩

end Transactions

end BurstProfiler.Recording
