import BurstProfiler.Proofs.Recording.RoundTrip

/-! Which rows the modules of a profile get. The cache stands for a search of the table: an entry
has the id of the row that holds its own module, spelled as that module is. What it takes for
another module depends on the modules it knows alone. -/

set_option autoImplicit false

namespace BurstProfiler

theorem Module.same_symm {m n : Module} (h : m.same n = true) : n.same m = true := by
  unfold same at h ⊢
  simp only [Bool.and_eq_true, beq_iff_eq] at h ⊢
  exact ⟨⟨h.1.1.symm, h.1.2.symm⟩, Path.same_symm h.2⟩

theorem Module.same_trans {k m n : Module} (h : k.same m = true) (h' : m.same n = true) :
    k.same n = true := by
  unfold same at h h' ⊢
  simp only [Bool.and_eq_true, beq_iff_eq] at h h' ⊢
  exact ⟨⟨h.1.1.trans h'.1.1, h.1.2.trans h'.1.2⟩, Path.same_trans h.2 h'.2⟩

theorem Module.same_fields {m n : Module} (h : m.same n = true) :
    m.base = n.base ∧ m.buildId = n.buildId := by
  unfold same at h
  simp only [Bool.and_eq_true, beq_iff_eq] at h
  exact h.1

namespace Recording

def rowOf? (rows : List ModuleRow) (m : Module) : Option ModuleRow :=
  rows.find? (fun row =>
    row.base == signed m.base && row.buildId == m.buildId && row.path == storedPath m)

def rowId? (rows : List ModuleRow) (m : Module) : Option Int := (rowOf? rows m).map (·.id)

def ensured (rows : List ModuleRow) (m : Module) : List ModuleRow :=
  match rowOf? rows m with
  | some _ => rows
  | none => rows ++ [⟨nextId (rows.map (·.id)), signed m.base, m.buildId, storedPath m⟩]

theorem apply_ensureModule (t : Tables) (m : Module) :
    t.apply (.ensureModule (signed m.base) m.buildId (storedPath m)) =
      { t with modules := ensured t.modules m } := by
  have search : t.moduleRow? (signed m.base) m.buildId (storedPath m) = rowOf? t.modules m := rfl
  unfold Tables.apply ensured
  dsimp only
  rw [search]
  cases rowOf? t.modules m <;> rfl

section Rows

variable {rows : List ModuleRow} {m n : Module} {id : Int}

theorem ensured_of_known (known : (rowId? rows m).isSome) : ensured rows m = rows := by
  unfold rowId? at known
  rw [Option.isSome_map] at known
  obtain ⟨row, found⟩ := Option.isSome_iff_exists.1 known
  rw [ensured, found]

theorem prefix_ensured (rows : List ModuleRow) (m : Module) : rows <+: ensured rows m := by
  unfold ensured
  split
  · exact List.prefix_rfl
  · exact List.prefix_append _ _

theorem prefix_foldl_ensured (rows : List ModuleRow) (modules : List Module) :
    rows <+: modules.foldl ensured rows := by
  induction modules generalizing rows with
  | nil => exact List.prefix_rfl
  | cons m rest ih => exact (prefix_ensured rows m).trans (ih _)

theorem rowId?_of_initial {more : List ModuleRow} (grown : rows <+: more)
    (known : rowId? rows m = some id) : rowId? more m = some id := by
  obtain ⟨rest, rfl⟩ := grown
  unfold rowId? rowOf? at known ⊢
  obtain ⟨row, found, rfl⟩ := Option.map_eq_some_iff.1 known
  rw [List.find?_append, found]
  rfl

theorem rowId?_congr (base : m.base = n.base) (buildId : m.buildId = n.buildId)
    (path : storedPath m = storedPath n) : rowId? rows m = rowId? rows n := by
  unfold rowId? rowOf?
  rw [base, buildId, path]

theorem exists_row_of_rowId? (keyed : (rows.map (·.id)).Pairwise (· < ·))
    (known : rowId? rows m = some id) :
    ∃ row, rows.find? (fun row => row.id == id) = some row ∧ row.base = signed m.base ∧
      row.buildId = m.buildId ∧ row.path = storedPath m := by
  obtain ⟨row, found, rfl⟩ := Option.map_eq_some_iff.1 known
  have fields := List.find?_some found
  simp only [Bool.and_eq_true, beq_iff_eq] at fields
  obtain ⟨⟨base, buildId⟩, path⟩ := fields
  exact ⟨row, find?_of_increasing keyed (List.mem_of_find?_eq_some found), base, buildId, path⟩

theorem read_of_rowId? (keyed : (rows.map (·.id)).Pairwise (· < ·))
    (known : rowId? rows m = some id) :
    ∃ row, rows.find? (fun row => row.id == id) = some row ∧ row.read = m.recorded := by
  obtain ⟨row, found, base, buildId, path⟩ := exists_row_of_rowId? keyed known
  refine ⟨row, found, ?_⟩
  rw [ModuleRow.read, base, buildId, path, word_signed]
  rfl

end Rows

/-- Of the modules that a cache knows the one that it takes for `m`. -/
def taken? (known : List Module) (m : Module) : Option Module :=
  known.find? (fun n => n.same m)

/-- The module whose row `m` gets: the one that the cache takes for it, or else its own. -/
def taken (known : List Module) (m : Module) : Module := (taken? known m).getD m

/-- The modules that a cache lacks, which are looked for in the table. -/
def lacking (known modules : List Module) : List Module :=
  modules.filter (fun m => (taken? known m).isNone)

def Exact (rows : List ModuleRow) (cache : List CacheEntry) : Prop :=
  ∀ entry ∈ cache, rowId? rows entry.1 = some entry.2

theorem Exact.grow {rows more : List ModuleRow} {cache : List CacheEntry} (h : Exact rows cache)
    (grown : rows <+: more) : Exact more cache :=
  fun entry member => rowId?_of_initial grown (h entry member)

theorem map_fst_find? (cache : List CacheEntry) (m : Module) :
    (cache.find? (fun entry => entry.1.same m)).map Prod.fst = taken? (cache.map Prod.fst) m := by
  unfold taken?
  rw [List.find?_map]
  rfl

theorem isNone_cached? (cache : List CacheEntry) (m : Module) :
    (cached? cache m).isNone = (taken? (cache.map Prod.fst) m).isNone := by
  rw [← map_fst_find?, cached?, Option.isNone_map, Option.isNone_map]

-- A module that the cache has gets the row of the module that it takes for it.
theorem Exact.rowId?_taken {rows : List ModuleRow} {cache : List CacheEntry} (h : Exact rows cache)
    {m : Module} {id : Int} (known : cached? cache m = some id) :
    rowId? rows (taken (cache.map Prod.fst) m) = some id := by
  unfold cached? at known
  obtain ⟨entry, found, rfl⟩ := Option.map_eq_some_iff.1 known
  rw [taken, ← map_fst_find?, found]
  exact h entry (List.mem_of_find?_eq_some found)

/-- What readying the modules of a profile comes to: the lacking ones have rows, each module has
the id of the row of what is taken for it, and the lacking ones are new to the cache. -/
structure Ensured (cache : List CacheEntry) (rows : List ModuleRow) (modules : List Module)
    (ids : List Int) (made : List CacheEntry) (behind : List ModuleRow) : Prop where
  rows : behind = (lacking (cache.map Prod.fst) modules).foldl ensured rows
  ids : ids.map some = modules.map (fun m => rowId? behind (taken (cache.map Prod.fst) m))
  new : made.map Prod.fst = lacking (cache.map Prod.fst) modules
  exact : Exact behind made

theorem Ensured.grown {cache : List CacheEntry} {rows : List ModuleRow} {modules : List Module}
    {ids : List Int} {made : List CacheEntry} {behind : List ModuleRow}
    (h : Ensured cache rows modules ids made behind) : rows <+: behind :=
  h.rows ▸ prefix_foldl_ensured _ _

section Ensuring

variable {faults : Faults} {d d' : Draft} {cache : List CacheEntry}

theorem Draft.ensured_of_ensure {m : Module} {id : Int}
    (ran : d.ensure faults m = .ok (id, d')) :
    d'.tables = { d.tables with modules := ensured d.tables.modules m } ∧
      rowId? d'.tables.modules m = some id := by
  rw [ensure] at ran
  obtain ⟨inserted, one, ran⟩ := ok_of_bind ran
  obtain ⟨searched, two, ran⟩ := ok_of_bind ran
  have same : searched.tables = inserted.tables := tables_run two
  have grown := tables_run one
  rw [apply_ensureModule, ← same] at grown
  split at ran
  · rename_i row found
    cases ran
    refine ⟨grown, ?_⟩
    exact Option.map_eq_some_iff.2 ⟨row, found, rfl⟩
  · cases ran

-- The induction is on the modules. Rows only come to be, so an id found at one module is still that
-- of its row behind the last one.
theorem Draft.ensured_of_ensureAll {modules : List Module} {ids : List Int}
    {made : List CacheEntry} (exact : Exact d.tables.modules cache)
    (ran : d.ensureAll faults cache modules = .ok (ids, made, d')) :
    ∃ behind, d'.tables = { d.tables with modules := behind } ∧
      Ensured cache d.tables.modules modules ids made behind := by
  induction modules generalizing d ids made with
  | nil =>
    cases ran
    exact ⟨_, rfl, rfl, rfl, rfl, fun _ member => absurd member List.not_mem_nil⟩
  | cons m rest ih =>
    rw [ensureAll] at ran
    split at ran
    · rename_i id known
      obtain ⟨⟨others, more, last⟩, ended, ran⟩ := ok_of_bind ran
      cases ran
      obtain ⟨behind, tables, later⟩ := ih exact ended
      have has : (taken? (cache.map Prod.fst) m).isNone = false := by
        rw [← isNone_cached?, known]
        rfl
      have first := rowId?_of_initial later.grown (exact.rowId?_taken known)
      refine ⟨behind, tables, ?_, ?_, ?_, later.exact⟩
      · rw [later.rows, lacking, lacking, List.filter_cons_of_neg (by simp [has])]
      · rw [List.map_cons, List.map_cons, later.ids, first]
      · rw [later.new, lacking, lacking, List.filter_cons_of_neg (by simp [has])]
    · rename_i unknown
      obtain ⟨⟨id, mid⟩, one, ran⟩ := ok_of_bind ran
      obtain ⟨⟨others, more, last⟩, ended, ran⟩ := ok_of_bind ran
      cases ran
      obtain ⟨readied, own⟩ := ensured_of_ensure one
      have grown : d.tables.modules <+: mid.tables.modules := by
        rw [readied]
        exact prefix_ensured _ _
      obtain ⟨behind, tables, later⟩ := ih (exact.grow grown) ended
      have lacks : taken? (cache.map Prod.fst) m = none := by
        have none := isNone_cached? cache m
        rw [unknown] at none
        exact Option.isNone_iff_eq_none.1 none.symm
      have first := rowId?_of_initial later.grown own
      have more : lacking (cache.map Prod.fst) (m :: rest) =
          m :: lacking (cache.map Prod.fst) rest :=
        List.filter_cons_of_pos (by rw [lacks]; rfl)
      refine ⟨behind, ?_, ?_, ?_, ?_, ?_⟩
      · rw [tables, readied]
      · rw [later.rows, readied, more]
        rfl
      · rw [List.map_cons, List.map_cons, later.ids, taken, lacks]
        exact congrArg (· :: _) first.symm
      · rw [List.map_cons, later.new, more]
      · intro entry member
        rcases List.mem_cons.1 member with rfl | other
        · exact first
        · exact later.exact entry other

end Ensuring

section Recordings

variable {faults : Faults} {s t : Storage} {p : Profile} {id : Int}

/-- A storage behind a call that went through, told from the storage before it. -/
structure Storage.Recorded (s : Storage) (p : Profile) (t : Storage) (ids : List Int)
    (more : List ModuleRow) (made : List CacheEntry) : Prop where
  tables : t.tables = s.tables.extended p ids more
  cache : t.cache = made.reverse ++ s.cache
  ensured : Ensured s.cache s.tables.modules p.modules ids made (s.tables.modules ++ more)

theorem Storage.exists_recorded (exact : Exact s.tables.modules s.cache)
    (recorded : s.record faults p = (.ok id, t)) :
    ∃ ids more made, s.Recorded p t ids more made := by
  unfold record at recorded
  split at recorded
  · cases recorded
  · rename_i made tables ran
    cases recorded
    obtain ⟨headed, readied, ids, head, ensured, last⟩ := ensured_of_transaction ran
    have same : headed.tables.modules = s.tables.modules := by rw [head]
    rw [← same] at exact
    obtain ⟨behind, grown, all⟩ := Draft.ensured_of_ensureAll exact ensured
    rw [same] at all
    obtain ⟨more, rfl⟩ := all.grown
    have number : ids.length = p.modules.length := by
      have lengths := congrArg List.length all.ids
      simpa only [List.length_map] using lengths
    refine ⟨ids, more, made, ?_, rfl, all⟩
    change tables = _
    rw [last, grown, head, number]
    rfl

theorem Storage.Recorded.exact {ids : List Int} {more : List ModuleRow} {made : List CacheEntry}
    (h : s.Recorded p t ids more made) (exact : Exact s.tables.modules s.cache) :
    Exact t.tables.modules t.cache := by
  rw [h.tables, h.cache]
  intro entry member
  rcases List.mem_append.1 member with new | old
  · exact h.ensured.exact entry (List.mem_reverse.1 new)
  · exact exact.grow h.ensured.grown entry old

theorem loaded_of_ids {rows : List ModuleRow} (keyed : (rows.map (·.id)).Pairwise (· < ·))
    {ids : List Int} {modules : List Module} {take : Module → Module}
    (named : ids.map some = modules.map (fun m => rowId? rows (take m))) :
    (ids.filterMap (fun id => rows.find? (fun row => row.id == id))).map ModuleRow.read =
      modules.map (fun m => (take m).recorded) := by
  induction modules generalizing ids with
  | nil =>
    rw [List.map_nil, List.map_eq_nil_iff] at named
    rw [named]
    rfl
  | cons m rest ih =>
    cases ids with
    | nil => cases named
    | cons first others =>
      rw [List.map_cons, List.map_cons, List.cons.injEq] at named
      obtain ⟨row, found, read⟩ := read_of_rowId? keyed named.1.symm
      rw [List.filterMap_cons, found, List.map_cons, List.map_cons, read, ← ih named.2]

theorem Storage.Recorded.loadProfiles {ids : List Int} {more : List ModuleRow}
    {made : List CacheEntry} (h : s.Recorded p t ids more made) (before : s.tables.Consistent)
    (behind : t.tables.Consistent) (keyed : t.tables.Keyed) :
    t.tables.loadProfiles = s.tables.loadProfiles ++ [{ p.recorded with
      modules := p.modules.map (fun m => (taken (s.cache.map Prod.fst) m).recorded) }] := by
  rw [h.tables] at behind keyed ⊢
  have linksAre : (s.tables.extended p ids more).links =
      s.tables.links ++ linkRows s.tables.nextProfile ids := rfl
  have modules : (s.tables.extended p ids more).loadModules s.tables.nextProfile =
      p.modules.map (fun m => (taken (s.cache.map Prod.fst) m).recorded) := by
    rw [loadModules_linked linksAre
      (fun link member => Int.ne_of_lt (before.links link member).1)]
    exact loaded_of_ids keyed h.ensured.ids
  rw [loadProfiles_extended before behind, loadProfile_linked before
    (by rw [modules, List.length_map]), modules]

end Recordings

end Recording

end BurstProfiler
