import BurstProfiler.Proofs.Recording.Writing

/-! Recording a profile is atomic. Every statement of every transaction may fail; what stays is what
the calls that went through would have left alone, and the cache only remembers rows that are
there. Without faults every profile is recorded. -/

set_option autoImplicit false

namespace BurstProfiler.Recording

/-- A computation that returns, and with what another one returns if that does. -/
def Reproduces {α : Type} (y x : Except EngineFault α) : Prop :=
  ∃ a, y = .ok a ∧ ∀ b, x = .ok b → b = a

theorem Reproduces.pure {α : Type} (a : α) : Reproduces (.ok a) (.ok a) := by
  refine ⟨a, rfl, ?_⟩
  intro b returned
  cases returned
  rfl

theorem Reproduces.bind {α β : Type} {x y : Except EngineFault α}
    {f g : α → Except EngineFault β} (first : Reproduces y x)
    (rest : ∀ a, y = .ok a → Reproduces (g a) (f a)) : Reproduces (y >>= g) (x >>= f) := by
  obtain ⟨a, returned, same⟩ := first
  obtain ⟨b, finished, agree⟩ := rest a returned
  refine ⟨b, ?_, ?_⟩
  · rw [returned]
    exact finished
  · intro c ran
    obtain ⟨a', start, more⟩ := ok_of_bind ran
    rw [same a' start] at more
    exact agree c more

section Faultless

variable (faults : Faults)

theorem Draft.run_reproduces (d : Draft) (s : Statement) :
    Reproduces (d.run .none s) (d.run faults s) := by
  refine ⟨⟨d.tables.apply s, d.executed + 1⟩, rfl, ?_⟩
  intro d' ran
  unfold run at ran
  split at ran
  · cases ran
  · exact (Except.ok.inj ran).symm

theorem Draft.runAll_reproduces (d : Draft) (statements : List Statement) :
    Reproduces (d.runAll .none statements) (d.runAll faults statements) := by
  induction statements generalizing d with
  | nil => exact .pure d
  | cons s rest ih => exact .bind (d.run_reproduces faults s) (fun d' _ => ih d')

theorem moduleRow?_ensureModule (t : Tables) (base : Int) (buildId path : String) :
    ∃ row, (t.apply (.ensureModule base buildId path)).moduleRow? base buildId path = some row := by
  unfold Tables.apply
  dsimp only
  split
  · rename_i row known
    exact ⟨row, known⟩
  · rename_i unknown
    unfold Tables.moduleRow? at unknown ⊢
    rw [List.find?_append, unknown, Option.none_or]
    simp

-- The search behind the insertion always finds a row.
theorem Draft.ensure_reproduces (d : Draft) (m : Module) :
    Reproduces (d.ensure .none m) (d.ensure faults m) := by
  apply Reproduces.bind (d.run_reproduces faults _)
  intro inserted one
  apply Reproduces.bind (inserted.run_reproduces faults _)
  intro searched two
  obtain ⟨row, found⟩ :=
    moduleRow?_ensureModule d.tables (signed m.base) m.buildId (storedPath m)
  have same : searched.tables = inserted.tables := tables_run two
  rw [← tables_run one, ← same] at found
  rw [found]
  exact .pure (row.id, searched)

theorem Draft.ensureAll_reproduces (cache : List CacheEntry) (d : Draft) (modules : List Module) :
    Reproduces (d.ensureAll .none cache modules) (d.ensureAll faults cache modules) := by
  induction modules generalizing d with
  | nil => exact .pure _
  | cons m rest ih =>
    rw [ensureAll, ensureAll]
    split
    · exact .bind (ih d) (fun _ _ => .pure _)
    · apply Reproduces.bind (d.ensure_reproduces faults m)
      rintro ⟨id, readied⟩ -
      exact .bind (ih readied) (fun _ _ => .pure _)

theorem Draft.writeSamples_reproduces (profile : Int) (modules position : Nat) (d : Draft)
    (samples : List Sample) :
    Reproduces (d.writeSamples .none profile modules position samples)
      (d.writeSamples faults profile modules position samples) := by
  induction samples generalizing d position with
  | nil => exact .pure d
  | cons frames rest ih =>
    apply Reproduces.bind (d.run_reproduces faults _)
    intro inserted _
    apply Reproduces.bind (inserted.runAll_reproduces faults _)
    intro filled _
    exact ih (position + 1) filled

theorem Storage.transaction_reproduces (s : Storage) (p : Profile) :
    Reproduces (s.transaction .none p) (s.transaction faults p) := by
  apply Reproduces.bind (Draft.run_reproduces faults _ _)
  intro opened _
  apply Reproduces.bind (opened.run_reproduces faults _)
  intro headed _
  apply Reproduces.bind (headed.ensureAll_reproduces faults _ _)
  rintro ⟨ids, made, readied⟩ -
  apply Reproduces.bind (readied.run_reproduces faults _)
  intro prepared _
  apply Reproduces.bind (prepared.runAll_reproduces faults _)
  intro linked _
  apply Reproduces.bind (linked.run_reproduces faults _)
  intro sampling _
  apply Reproduces.bind (sampling.run_reproduces faults _)
  intro framing _
  apply Reproduces.bind (framing.writeSamples_reproduces faults _ _ _ _)
  intro filled _
  apply Reproduces.bind (filled.run_reproduces faults _)
  intro committed _
  exact .pure _

theorem Storage.record_none_of_ok {s t : Storage} {p : Profile} {id : Int}
    (recorded : s.record faults p = (.ok id, t)) : s.record .none p = (.ok id, t) := by
  obtain ⟨r, returned, same⟩ := s.transaction_reproduces faults p
  unfold record at recorded ⊢
  split at recorded
  · cases recorded
  · rename_i ran
    rw [returned, ← same _ ran]
    exact recorded

theorem Storage.record_none (s : Storage) (p : Profile) :
    ∃ id t, s.record .none p = (.ok id, t) := by
  obtain ⟨⟨id, made, t⟩, returned, -⟩ := s.transaction_reproduces .none p
  refine ⟨id, ⟨t, made.reverse ++ s.cache⟩, ?_⟩
  unfold record
  rw [returned]

-- Nothing but a fault of a statement keeps profiles from being recorded.
theorem Storage.recordAll_none (s : Storage) (profiles : List Profile) :
    ∃ t, s.recordAll .none profiles = .ok t := by
  induction profiles generalizing s with
  | nil => exact ⟨s, rfl⟩
  | cons p rest ih =>
    obtain ⟨id, t, recorded⟩ := s.record_none p
    rw [recordAll, recorded]
    exact ih t

end Faultless

section Attempts

/-- A call that records a profile, with the statements that fail in it. -/
structure Attempt where
  faults : Faults
  profile : Profile

namespace Storage

def attemptAll (s : Storage) : List Attempt → Storage
  | [] => s
  | a :: rest => (s.record a.faults a.profile).2.attemptAll rest

def succeeded (s : Storage) : List Attempt → List Profile
  | [] => []
  | a :: rest =>
    match s.record a.faults a.profile with
    | (.error _, s) => s.succeeded rest
    | (.ok _, s) => a.profile :: s.succeeded rest

theorem Sound.attemptAll {s : Storage} (sound : s.Sound) (attempts : List Attempt) :
    (s.attemptAll attempts).Sound := by
  induction attempts generalizing s with
  | nil => exact sound
  | cons a rest ih => exact ih (sound.record a.faults a.profile)

theorem recordAll_succeeded (s : Storage) (attempts : List Attempt) :
    s.recordAll .none (s.succeeded attempts) = .ok (s.attemptAll attempts) := by
  induction attempts generalizing s with
  | nil => rfl
  | cons a rest ih =>
    rw [succeeded, attemptAll]
    split
    · rename_i fault t failed
      rw [failed]
      have same : t = s := record_error failed
      exact same ▸ ih t
    · rename_i id t recorded
      rw [recorded, recordAll, record_none_of_ok a.faults recorded]
      exact ih t

/-- **Recording a profile is atomic.** Behind any calls, whichever statements failed in them, a call
that fails changes nothing, what the cache remembers of a module is the id of a row that describes
it, and the calls that went through lead to the same tables and cache alone. -/
theorem record_atomic (thread : ThreadId) (p : Params) (origin : Origin)
    (attempts : List Attempt) :
    let s := (create thread p origin).attemptAll attempts
    (∀ faults q fault, (s.record faults q).1 = .error fault → (s.record faults q).2 = s) ∧
      (∀ m id, cached? s.cache m = some id →
        ∃ row, s.tables.modules.find? (fun row => row.id == id) = some row ∧
          row.base = signed m.base ∧ row.buildId = m.buildId ∧
            (Path.ofString row.path).same (.ofString m.path.display) = true) ∧
      (create thread p origin).recordAll .none ((create thread p origin).succeeded attempts) =
        .ok s := by
  intro s
  have sound : s.Sound := (sound_create thread p origin).attemptAll attempts
  refine ⟨?_, ?_, recordAll_succeeded _ attempts⟩
  · intro faults q fault failed
    exact record_error (Prod.ext failed rfl)
  · intro m id known
    obtain ⟨row, place, describes⟩ := cached?_names sound.cached known
    exact ⟨row, place, describes.base, describes.buildId, describes.path⟩

end Storage

def failingCommit : Faults := fun _ statement =>
  if statement = .commit then some .forcedFailure else none

/-- One module under two spellings, a sample without frames and an index out of range. -/
def briefProfile (base : UInt64) (name : UInt8) : Profile where
  modules := [⟨base, "feed", ⟨[47, name]⟩⟩, ⟨base, "feed", ⟨[47, 47, name]⟩⟩]
  samples := [[], [⟨base + 4, some 1⟩, ⟨7, some 2⟩]]
  duration := .ofMillis 20
  period := .ofMillis 10
  preservesOrder := true

def briefAttempts : List Attempt :=
  [⟨failingCommit, briefProfile 4096 97⟩, ⟨.none, briefProfile 8192 98⟩,
    ⟨.none, briefProfile 8192 98⟩]

-- The ids of the rolled back rows are given to the modules of the next profile.
theorem record_atomic_reused_ids :
    let s := (Storage.create ⟨7⟩ .standard ⟨"12", "noon"⟩).attemptAll briefAttempts
    cached? s.cache ⟨4096, "feed", ⟨[47, 97]⟩⟩ = none ∧
      ∃ row, s.tables.modules.find? (fun row => row.id == 2) = some row ∧
        row.base = signed 8192 ∧ row.buildId = "feed" ∧
          (Path.ofString row.path).same (.ofString (⟨[47, 98]⟩ : Path).display) = true :=
  ⟨by decide +kernel,
    (Storage.record_atomic ⟨7⟩ .standard ⟨"12", "noon"⟩ briefAttempts).2.1
      ⟨8192, "feed", ⟨[47, 98]⟩⟩ 2 (by decide +kernel)⟩

end Attempts

end BurstProfiler.Recording
