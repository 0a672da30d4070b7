import BurstProfiler.Params
import BurstProfiler.Recording.Schema
import BurstProfiler.ThreadId

/-! Writing profiles into a recording. A profile is written in one transaction: if a statement of
it fails, nothing of it stays. Modules are shared between profiles; a cache remembers the rows of
modules that were written before. -/

set_option autoImplicit false

namespace BurstProfiler.Recording

inductive Statement where
  | begin
  | insertProfile (row : ProfileRow)
  | ensureModule (base : Int) (buildId path : String)
  | findModule (base : Int) (buildId path : String)
  | prepare (table : String)
  | insertLink (row : LinkRow)
  | insertSample (row : SampleRow)
  | insertFrame (row : FrameRow)
  | commit
  deriving DecidableEq, Repr

/-- Which statements fail, by their number in the transaction and what they are. -/
abbrev Faults := Nat → Statement → Option EngineFault

def Faults.none : Faults := fun _ _ => .none

def Tables.apply (t : Tables) : Statement → Tables
  | .insertProfile row => { t with profiles := t.profiles ++ [row] }
  | .ensureModule base buildId path =>
    match t.moduleRow? base buildId path with
    | some _ => t
    | none =>
      { t with modules := t.modules ++ [⟨nextId (t.modules.map (·.id)), base, buildId, path⟩] }
  | .insertLink row => { t with links := t.links ++ [row] }
  | .insertSample row => { t with samples := t.samples ++ [row] }
  | .insertFrame row => { t with frames := t.frames ++ [row] }
  | .begin | .findModule _ _ _ | .prepare _ | .commit => t

/-- An open transaction: the tables as it sees them and how many statements it ran. -/
structure Draft where
  tables : Tables
  executed : Nat
  deriving DecidableEq, Repr

def Draft.run (faults : Faults) (d : Draft) (s : Statement) : Except EngineFault Draft :=
  match faults d.executed s with
  | some fault => .error fault
  | none => .ok ⟨d.tables.apply s, d.executed + 1⟩

abbrev CacheEntry := Module × Int

/-- The remembered row of a module; the entry made last counts. -/
def cached? (cache : List CacheEntry) (m : Module) : Option Int :=
  (cache.find? (fun entry => entry.1.same m)).map Prod.snd

def storedPath (m : Module) : String := m.path.display

def Draft.ensure (faults : Faults) (d : Draft) (m : Module) : Except EngineFault (Int × Draft) := do
  let d ← d.run faults (.ensureModule (signed m.base) m.buildId (storedPath m))
  let d ← d.run faults (.findModule (signed m.base) m.buildId (storedPath m))
  match d.tables.moduleRow? (signed m.base) m.buildId (storedPath m) with
  | some row => pure (row.id, d)
  | none => throw (.missingTable "modules")

/-- The row ids of a list of modules, and the entries that the cache lacks, in order. -/
def Draft.ensureAll (faults : Faults) (cache : List CacheEntry) (d : Draft) :
    List Module → Except EngineFault (List Int × List CacheEntry × Draft)
  | [] => .ok ([], [], d)
  | m :: rest =>
    match cached? cache m with
    | some id => do
      let (ids, made, d) ← d.ensureAll faults cache rest
      pure (id :: ids, made, d)
    | none => do
      let (id, d) ← d.ensure faults m
      let (ids, made, d) ← d.ensureAll faults cache rest
      pure (id :: ids, (m, id) :: made, d)

def Draft.runAll (faults : Faults) (d : Draft) : List Statement → Except EngineFault Draft
  | [] => .ok d
  | s :: rest => do
    let d ← d.run faults s
    d.runAll faults rest

def linkStatements (profile : Int) (moduleIds : List Int) : List Statement :=
  moduleIds.zipIdx.map (fun (id, ordinal) => .insertLink ⟨profile, ordinal, id⟩)

/-- The frames of a sample; an index outside the module list is stored as unresolved. -/
def frameStatements (sample : Int) (modules : Nat) (frames : Sample) : List Statement :=
  frames.zipIdx.map (fun (frame, depth) =>
    .insertFrame ⟨sample, depth, signed frame.instructionPointer,
      (frame.moduleIndex.filter (· < modules)).map Int.ofNat⟩)

def Draft.writeSamples (faults : Faults) (profile : Int) (modules position : Nat) (d : Draft) :
    List Sample → Except EngineFault Draft
  | [] => .ok d
  | frames :: rest => do
    let id := nextId (d.tables.samples.map (·.id))
    let d ← d.run faults (.insertSample ⟨id, profile, position⟩)
    let d ← d.runAll faults (frameStatements id modules frames)
    d.writeSamples faults profile modules (position + 1) rest

structure Storage where
  tables : Tables
  cache : List CacheEntry
  deriving DecidableEq, Repr

structure Origin where
  process : String
  startTime : String
  deriving DecidableEq, Repr

namespace Storage

def firstMetadata (thread : ThreadId) (p : Params) (origin : Origin) : List (String × String) :=
  [("version", "2"), ("pid", origin.process), ("thread", thread.text), ("params", p.describe),
    ("start_time", origin.startTime)]

def create (thread : ThreadId) (p : Params) (origin : Origin) : Storage where
  tables := { Tables.empty with metadata := firstMetadata thread p origin }
  cache := []

/-- A new recording in a file that has these tables. -/
def createOver (earlier : Catalog) (thread : ThreadId) (p : Params) (origin : Origin) :
    Except EngineFault Storage := do
  let catalog ← earlier.defineAll setup
  let tables ← catalog.tables
  pure ⟨(firstMetadata thread p origin).foldl (fun t entry => t.setMetadata entry.1 entry.2) tables,
    []⟩

/-- The transaction of one profile: its row id, the new cache entries and the tables. -/
def transaction (faults : Faults) (s : Storage) (p : Profile) :
    Except EngineFault (Int × List CacheEntry × Tables) := do
  let d ← (⟨s.tables, 0⟩ : Draft).run faults .begin
  let id := nextId (d.tables.profiles.map (·.id))
  let d ← d.run faults (.insertProfile
    ⟨id, storedMicros p.duration, storedMicros p.period, if p.preservesOrder then 1 else 0⟩)
  let (moduleIds, made, d) ← d.ensureAll faults s.cache p.modules
  let d ← d.run faults (.prepare "profile_modules")
  let d ← d.runAll faults (linkStatements id moduleIds)
  let d ← d.run faults (.prepare "samples")
  let d ← d.run faults (.prepare "frames")
  let d ← d.writeSamples faults id moduleIds.length 0 p.samples
  let d ← d.run faults .commit
  pure (id, made, d.tables)

/-- Records a profile. The cache learns its new modules only when the transaction is through. -/
def record (faults : Faults) (s : Storage) (p : Profile) : Except EngineFault Int × Storage :=
  match s.transaction faults p with
  | .error fault => (.error fault, s)
  | .ok (id, made, tables) => (.ok id, ⟨tables, made.reverse ++ s.cache⟩)

def recordAll (faults : Faults) (s : Storage) : List Profile → Except EngineFault Storage
  | [] => .ok s
  | p :: rest =>
    match s.record faults p with
    | (.error fault, _) => .error fault
    | (.ok _, s) => s.recordAll faults rest

def setMetadata (s : Storage) (key value : String) : Storage :=
  { s with tables := s.tables.setMetadata key value }

def profileCount (s : Storage) : Nat := s.tables.profiles.length

def sampleCount (s : Storage) : Nat := s.tables.samples.length

-- Nothing of an earlier recording stays.
theorem createOver_eq (earlier : Catalog) (thread : ThreadId) (p : Params) (origin : Origin) :
    createOver earlier thread p origin = .ok (create thread p origin) := by
  unfold createOver
  rw [Catalog.defineAll_setup]
  rfl

theorem record_error {faults : Faults} {s t : Storage} {p : Profile} {fault : EngineFault}
    (h : s.record faults p = (.error fault, t)) : t = s := by
  unfold record at h
  split at h
  · simp only [Prod.mk.injEq] at h; exact h.2.symm
  · simp at h

end Storage

end BurstProfiler.Recording
