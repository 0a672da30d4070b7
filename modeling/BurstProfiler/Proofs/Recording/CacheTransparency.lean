import BurstProfiler.Proofs.Recording.ModuleRows
import BurstProfiler.Recording.HotFrames

/-! What the module cache changes. The cache takes modules for the same whose paths have the same
components, the table only those whose paths have the same text. So with the cache a module keeps
the spelling under which it was remembered, and without it each spelling has a row. Where modules
come up spelled as they are remembered, the cache changes nothing, and nowhere else. -/

set_option autoImplicit false

namespace BurstProfiler

namespace Recording

/-- The module that is remembered where `m` comes up behind these profiles: of the first of them
with modules that are the same the last such module. -/
def remembered? (profiles : List Profile) (m : Module) : Option Module :=
  profiles.findSome? (fun p => p.modules.reverse.find? (fun n => n.same m))

/-- Modules that are remembered come up in the spelling in which they are. -/
def SpelledAs (earlier : List Profile) (p : Profile) : Prop :=
  ∀ m ∈ p.modules, ∀ n ∈ remembered? earlier m, storedPath n = storedPath m

instance (earlier : List Profile) (p : Profile) : Decidable (SpelledAs earlier p) :=
  inferInstanceAs
    (Decidable (∀ m ∈ p.modules, ∀ n ∈ remembered? earlier m, storedPath n = storedPath m))

def SpelledFrom (earlier : List Profile) : List Profile → Prop
  | [] => True
  | p :: rest => SpelledAs earlier p ∧ SpelledFrom (earlier ++ [p]) rest

instance decidableSpelledFrom : (earlier profiles : List Profile) →
    Decidable (SpelledFrom earlier profiles)
  | _, [] => .isTrue trivial
  | earlier, p :: rest =>
    have := decidableSpelledFrom (earlier ++ [p]) rest
    inferInstanceAs (Decidable (SpelledAs earlier p ∧ SpelledFrom (earlier ++ [p]) rest))

/-- A profile as it is stored behind earlier ones: with the modules that are remembered. -/
def recordedBehind (earlier : List Profile) (p : Profile) : Profile :=
  { p.recorded with modules := p.modules.map (fun m => ((remembered? earlier m).getD m).recorded) }

def recordings (earlier : List Profile) : List Profile → List Profile
  | [] => []
  | p :: rest => recordedBehind earlier p :: recordings (earlier ++ [p]) rest

theorem taken?_iff {known : List Module} {m : Module} :
    taken? known m = none ↔ ∀ n ∈ known, n.same m = false := by
  simp only [taken?, List.find?_eq_none, Bool.not_eq_true]

theorem taken?_none_of_same {known : List Module} {m n : Module} (same : n.same m = true)
    (lacks : taken? known m = none) : taken? known n = none := by
  rw [taken?_iff] at lacks ⊢
  intro k member
  rw [Bool.eq_false_iff]
  intro contrary
  exact Bool.eq_false_iff.1 (lacks k member) (Module.same_trans contrary same)

-- A cache that learns what it lacks of a module list keeps to what it knew before, and takes of the
-- new modules the last.
theorem taken?_learned (known modules : List Module) (m : Module) :
    taken? ((lacking known modules).reverse ++ known) m =
      (taken? known m).or (modules.reverse.find? (fun n => n.same m)) := by
  have learned : (lacking known modules).reverse.find? (fun n => n.same m) =
      modules.reverse.find? (fun n => (taken? known n).isNone && n.same m) := by
    rw [lacking, ← List.filter_reverse, List.find?_filter]
    simp only [Bool.decide_and, Bool.decide_eq_true]
  have before : taken? ((lacking known modules).reverse ++ known) m =
      ((lacking known modules).reverse.find? (fun n => n.same m)).or (taken? known m) :=
    List.find?_append
  rw [before, learned]
  cases knows : taken? known m with
  | some k =>
    have nothing : modules.reverse.find? (fun n => (taken? known n).isNone && n.same m) = none := by
      rw [List.find?_eq_none]
      intro n _ new
      rw [Bool.and_eq_true, Option.isNone_iff_eq_none] at new
      rw [taken?_none_of_same (Module.same_symm new.2) new.1] at knows
      cases knows
    rw [nothing]
    rfl
  | none =>
    have all : (fun n : Module => (taken? known n).isNone && n.same m) = fun n => n.same m := by
      funext n
      cases same : n.same m with
      | false => exact Bool.and_false _
      | true => rw [taken?_none_of_same same knows]; rfl
    rw [all, Option.or_none]
    rfl

theorem remembered?_concat (earlier : List Profile) (p : Profile) (m : Module) :
    remembered? (earlier ++ [p]) m =
      (remembered? earlier m).or (p.modules.reverse.find? (fun n => n.same m)) := by
  unfold remembered?
  rw [List.findSome?_append, List.findSome?_singleton]

-- A module is stored as what is remembered for it just when that is spelled alike.
theorem recorded_eq_iff {m n : Module} (same : n.same m = true) :
    n.recorded = m.recorded ↔ storedPath n = storedPath m := by
  obtain ⟨base, buildId⟩ := Module.same_fields same
  unfold Module.recorded storedPath
  simp only [Module.mk.injEq, base, buildId, true_and]
  exact ⟨Path.ofString_injective, congrArg Path.ofString⟩

theorem same_of_remembered {profiles : List Profile} {m n : Module}
    (remembered : remembered? profiles m = some n) : n.same m = true := by
  obtain ⟨q, -, found⟩ := List.exists_of_findSome?_eq_some remembered
  exact List.find?_some (p := fun n : Module => n.same m) found

theorem recordedBehind_eq_iff {earlier : List Profile} {p : Profile} :
    recordedBehind earlier p = p.recorded ↔ SpelledAs earlier p := by
  have modules : recordedBehind earlier p = p.recorded ↔
      p.modules.map (fun m => ((remembered? earlier m).getD m).recorded) =
        p.modules.map Module.recorded := by
    constructor
    · exact congrArg Profile.modules
    · intro same
      unfold recordedBehind
      rw [same]
      rfl
  rw [modules, List.map_inj_left]
  refine forall₂_congr (fun m _ => ?_)
  cases remembered : remembered? earlier m with
  | none => simp
  | some n =>
    simp only [Option.getD_some, Option.mem_some_iff, forall_eq',
      recorded_eq_iff (same_of_remembered remembered)]

theorem recordings_eq_iff {earlier profiles : List Profile} :
    recordings earlier profiles = profiles.map Profile.recorded ↔
      SpelledFrom earlier profiles := by
  induction profiles generalizing earlier with
  | nil => exact ⟨fun _ => trivial, fun _ => rfl⟩
  | cons p rest ih =>
    rw [recordings, List.map_cons, List.cons.injEq, recordedBehind_eq_iff, ih, SpelledFrom]

/-- A storage whose recording reads as a list of profiles, with a cache that remembers what their
modules say. -/
structure Storage.Remembers (s : Storage) (profiles : List Profile) : Prop where
  holds : s.Holds profiles
  exact : Exact s.tables.modules s.cache
  cache : ∀ m, taken? (s.cache.map Prod.fst) m = remembered? profiles m

theorem Storage.remembers_create (thread : ThreadId) (params : Params) (origin : Origin) :
    (create thread params origin).Remembers [] :=
  ⟨holds_create thread params origin, fun _ member => absurd member List.not_mem_nil, fun _ => rfl⟩

theorem Storage.Remembers.taken {s : Storage} {profiles : List Profile} (h : s.Remembers profiles)
    (m : Module) : Recording.taken (s.cache.map Prod.fst) m = (remembered? profiles m).getD m := by
  rw [Recording.taken, h.cache]

section Calls

variable {faults : Faults} {s t u : Storage} {earlier profiles : List Profile} {p : Profile}
  {id : Int}

theorem Storage.Remembers.record (h : s.Remembers earlier)
    (recorded : s.record faults p = (.ok id, t)) : t.Remembers (earlier ++ [p]) := by
  obtain ⟨ids, more, made, told⟩ := exists_recorded h.exact recorded
  refine ⟨h.holds.record recorded, told.exact h.exact, fun m => ?_⟩
  rw [told.cache, List.map_append, List.map_reverse, told.ensured.new, taken?_learned, h.cache,
    remembered?_concat]

theorem Storage.Remembers.loadProfiles (h : s.Remembers earlier)
    (recorded : s.record faults p = (.ok id, t)) :
    t.tables.loadProfiles = s.tables.loadProfiles ++ [recordedBehind earlier p] := by
  obtain ⟨ids, more, made, told⟩ := exists_recorded h.exact recorded
  have behind := h.holds.record recorded
  rw [told.loadProfiles h.holds.consistent behind.consistent behind.sound.keyed]
  unfold recordedBehind
  simp only [h.taken]

-- The profiles of a run of calls are loaded each as it is stored behind those before it.
theorem Storage.Remembers.loadProfiles_recordAll (h : s.Remembers earlier)
    (recorded : s.recordAll faults profiles = .ok t) :
    t.tables.loadProfiles = s.tables.loadProfiles ++ recordings earlier profiles := by
  induction profiles generalizing s earlier with
  | nil =>
    cases recorded
    exact (List.append_nil _).symm
  | cons p rest ih =>
    rw [recordAll] at recorded
    split at recorded
    · cases recorded
    · rename_i id mid one
      rw [ih (h.record one) recorded, h.loadProfiles one, List.append_assoc]
      rfl

def Storage.forget (s : Storage) : Storage := { s with cache := [] }

/-- Records profiles with a cache that is always empty: every module of every profile is looked for
in the table. -/
def Storage.recordAllAnew (s : Storage) : List Profile → Except EngineFault Storage
  | [] => .ok s
  | p :: rest =>
    match s.forget.record .none p with
    | (.error fault, _) => .error fault
    | (.ok _, s) => s.recordAllAnew rest

theorem Storage.Holds.forget (h : s.Holds earlier) : s.forget.Holds earlier :=
  ⟨⟨h.sound.keyed, fun _ member => absurd member List.not_mem_nil⟩, h.consistent, h.loaded⟩

theorem exact_forget (s : Storage) : Exact s.forget.tables.modules s.forget.cache :=
  fun _ member => absurd member List.not_mem_nil

theorem Storage.Holds.loadProfiles_anew (h : s.Holds earlier)
    (recorded : s.forget.record .none p = (.ok id, t)) :
    t.tables.loadProfiles = s.tables.loadProfiles ++ [p.recorded] := by
  obtain ⟨ids, more, made, told⟩ := exists_recorded (exact_forget s) recorded
  have behind := h.forget.record recorded
  exact told.loadProfiles h.consistent behind.consistent behind.sound.keyed

theorem Storage.Holds.exists_recordAllAnew (h : s.Holds earlier) (profiles : List Profile) :
    ∃ u, s.recordAllAnew profiles = .ok u ∧
      u.tables.loadProfiles = s.tables.loadProfiles ++ profiles.map Profile.recorded := by
  induction profiles generalizing s earlier with
  | nil => exact ⟨s, rfl, (List.append_nil _).symm⟩
  | cons p rest ih =>
    obtain ⟨id, mid, one⟩ := s.forget.record_none p
    obtain ⟨u, others, loaded⟩ := ih (h.forget.record one)
    refine ⟨u, ?_, ?_⟩
    · rw [recordAllAnew, one]
      exact others
    · rw [loaded, h.loadProfiles_anew one, List.append_assoc]
      rfl

theorem foldl_ensured_lacking {known modules : List Module} {rows : List ModuleRow}
    (present : ∀ m ∈ modules, (taken? known m).isSome → (rowId? rows m).isSome) :
    (lacking known modules).foldl ensured rows = modules.foldl ensured rows := by
  induction modules generalizing rows with
  | nil => rfl
  | cons m rest ih =>
    have later : ∀ n ∈ rest, (taken? known n).isSome →
        (rowId? (ensured rows m) n).isSome := by
      intro n member knows
      obtain ⟨id, has⟩ := Option.isSome_iff_exists.1
        (present n (List.mem_cons_of_mem _ member) knows)
      rw [rowId?_of_initial (prefix_ensured rows m) has]
      rfl
    cases knows : taken? known m with
    | some n =>
      have there : ensured rows m = rows :=
        ensured_of_known (present m List.mem_cons_self (by rw [knows]; rfl))
      have same : lacking known (m :: rest) = lacking known rest :=
        List.filter_cons_of_neg (by simp [knows])
      rw [same, List.foldl_cons, ← ih later, there]
    | none =>
      have more : lacking known (m :: rest) = m :: lacking known rest :=
        List.filter_cons_of_pos (by rw [knows]; rfl)
      rw [more, List.foldl_cons, List.foldl_cons, ih later]

theorem lacking_nil (modules : List Module) : lacking [] modules = modules :=
  List.filter_eq_self.2 (fun _ _ => rfl)

-- If modules come up spelled as they are remembered, each has the row that it would get anew.
theorem Storage.Remembers.tables_anew (h : s.Remembers earlier) (spelled : SpelledAs earlier p)
    (same : u.tables = s.tables) (recorded : s.record faults p = (.ok id, t)) :
    ∃ id' v, u.forget.record .none p = (.ok id', v) ∧ v.tables = t.tables := by
  obtain ⟨id', v, anew⟩ := u.forget.record_none p
  refine ⟨id', v, anew, ?_⟩
  obtain ⟨ids, more, made, told⟩ := exists_recorded h.exact recorded
  obtain ⟨ids', more', made', told'⟩ := exists_recorded (exact_forget u) anew
  have before : u.forget.tables = s.tables := same
  have none_known : u.forget.cache.map Prod.fst = [] := rfl
  have spelling : ∀ rows, ∀ m ∈ p.modules,
      rowId? rows (Recording.taken (s.cache.map Prod.fst) m) = rowId? rows m := by
    intro rows m member
    rw [h.taken]
    cases remembered : remembered? earlier m with
    | none => rfl
    | some n =>
      obtain ⟨base, buildId⟩ := Module.same_fields (same_of_remembered remembered)
      exact rowId?_congr base buildId (spelled m member n remembered)
  have present : ∀ m ∈ p.modules, (taken? (s.cache.map Prod.fst) m).isSome →
      (rowId? s.tables.modules m).isSome := by
    intro m member knows
    obtain ⟨n, found⟩ := Option.isSome_iff_exists.1 knows
    obtain ⟨entry, there, rfl⟩ := List.mem_map.1 (List.mem_of_find?_eq_some found)
    have own := h.exact entry there
    rw [← spelling _ m member, Recording.taken, found, Option.getD_some, own]
    rfl
  have rows := told.ensured.rows
  have rows' := told'.ensured.rows
  rw [foldl_ensured_lacking present] at rows
  rw [none_known, lacking_nil, before, ← rows] at rows'
  obtain rfl : more' = more := List.append_cancel_left rows'
  have number : ids'.map some = ids.map some := by
    rw [told.ensured.ids, told'.ensured.ids, none_known, before]
    exact List.map_congr_left (fun m member => (spelling _ m member).symm)
  obtain rfl : ids' = ids := List.map_injective_iff.2 (fun _ _ => Option.some.inj) number
  rw [told.tables, told'.tables, before]

theorem Storage.Remembers.recordAllAnew (h : s.Remembers earlier)
    (spelled : SpelledFrom earlier profiles) (same : u.tables = s.tables)
    (recorded : s.recordAll faults profiles = .ok t) :
    ∃ v, u.recordAllAnew profiles = .ok v ∧ v.tables = t.tables := by
  induction profiles generalizing s u earlier with
  | nil =>
    cases recorded
    exact ⟨u, rfl, same⟩
  | cons p rest ih =>
    rw [recordAll] at recorded
    split at recorded
    · cases recorded
    · rename_i id mid one
      obtain ⟨id', v, anew, tables⟩ := h.tables_anew spelled.1 same one
      obtain ⟨w, others, last⟩ := ih (h.record one) spelled.2 tables recorded
      refine ⟨w, ?_, last⟩
      rw [Storage.recordAllAnew, anew]
      exact others

end Calls

/-- **Where the module cache is transparent.** Behind any calls, the profiles that were recorded
are loaded with the spellings under which their modules are remembered, and recorded without the
cache they are loaded each with its own. The two agree just when every module comes up spelled as
it is remembered, and then the cache changes neither the number of module rows nor the hottest
frames, whatever the limit and the threshold. -/
theorem cache_transparent_iff_spelled (thread : ThreadId) (params : Params) (origin : Origin)
    (attempts : List Attempt) :
    let s := (Storage.create thread params origin).attemptAll attempts
    let profiles := (Storage.create thread params origin).succeeded attempts
    ∃ u, (Storage.create thread params origin).recordAllAnew profiles = .ok u ∧
      s.tables.loadProfiles = recordings [] profiles ∧
      u.tables.loadProfiles = profiles.map Profile.recorded ∧
      (s.tables.loadProfiles = u.tables.loadProfiles ↔ SpelledFrom [] profiles) ∧
      (SpelledFrom [] profiles →
        s.tables.modules.length = u.tables.modules.length ∧
        ∀ limit threshold,
          s.tables.hotFramesFrom limit threshold = u.tables.hotFramesFrom limit threshold) := by
  intro s profiles
  have fresh := Storage.remembers_create thread params origin
  have recorded : (Storage.create thread params origin).recordAll .none profiles = .ok s :=
    Storage.recordAll_succeeded _ attempts
  obtain ⟨u, anew, loaded'⟩ := fresh.holds.exists_recordAllAnew profiles
  have loaded := fresh.loadProfiles_recordAll recorded
  have nothing : (Storage.create thread params origin).tables.loadProfiles = [] :=
    List.forall₂_nil_right_iff.1 fresh.holds.loaded
  rw [nothing, List.nil_append] at loaded loaded'
  refine ⟨u, anew, loaded, loaded', ?_, fun spelled => ?_⟩
  · rw [loaded, loaded', recordings_eq_iff]
  · obtain ⟨v, anew', tables⟩ := fresh.recordAllAnew spelled rfl recorded
    obtain rfl : u = v := Except.ok.inj (anew.symm.trans anew')
    rw [tables]
    exact ⟨rfl, fun _ _ => rfl⟩

def lonelyProfile (path : List UInt8) : Profile where
  modules := [⟨4096, "a", ⟨path⟩⟩]
  samples := [[⟨4100, some 0⟩]]
  duration := .ofMillis 20
  period := .ofMillis 10
  preservesOrder := true

def spelledAttempts : List Attempt :=
  [⟨.none, briefProfile 8192 98⟩, ⟨failingCommit, lonelyProfile [47, 97]⟩,
    ⟨.none, { briefProfile 8192 98 with modules := [⟨8192, "feed", ⟨[47, 47, 98]⟩⟩] }⟩]

theorem cache_transparent_iff_spelled_later :
    let s := (Storage.create ⟨7⟩ .standard ⟨"12", "noon"⟩).attemptAll spelledAttempts
    let profiles := (Storage.create ⟨7⟩ .standard ⟨"12", "noon"⟩).succeeded spelledAttempts
    profiles.length = 2 ∧ SpelledFrom [] profiles ∧
      ∃ u, (Storage.create ⟨7⟩ .standard ⟨"12", "noon"⟩).recordAllAnew profiles = .ok u ∧
        s.tables.loadProfiles = u.tables.loadProfiles ∧
        s.tables.modules.length = u.tables.modules.length ∧
        ∀ limit threshold,
          s.tables.hotFramesFrom limit threshold = u.tables.hotFramesFrom limit threshold := by
  intro s profiles
  have spelled : SpelledFrom [] profiles := by decide +kernel
  obtain ⟨u, anew, -, -, loads, rest⟩ :=
    cache_transparent_iff_spelled ⟨7⟩ .standard ⟨"12", "noon"⟩ spelledAttempts
  exact ⟨by decide +kernel, spelled, u, anew, loads.2 spelled, rest spelled⟩

def twoSpellings : List Profile :=
  [lonelyProfile [47, 97, 47, 98], lonelyProfile [47, 97, 47, 47, 98]]

/-- With the cache the two spellings have one row, and the second profile is loaded with the path
of the first. -/
theorem cache_merges_spellings :
    ∃ s u, (Storage.create ⟨7⟩ .standard ⟨"12", "noon"⟩).recordAll .none twoSpellings = .ok s ∧
      (Storage.create ⟨7⟩ .standard ⟨"12", "noon"⟩).recordAllAnew twoSpellings = .ok u ∧
      s.tables.modules.length = 1 ∧ u.tables.modules.length = 2 ∧
      s.tables.hotGroups.length = 1 ∧ u.tables.hotGroups.length = 2 ∧
      s.tables.loadProfiles ≠ u.tables.loadProfiles := by
  have fresh := Storage.remembers_create ⟨7⟩ .standard ⟨"12", "noon"⟩
  obtain ⟨s, recorded⟩ :=
    (Storage.create ⟨7⟩ .standard ⟨"12", "noon"⟩).recordAll_none twoSpellings
  obtain ⟨u, anew, loaded'⟩ := fresh.holds.exists_recordAllAnew twoSpellings
  have cached : ((Storage.create ⟨7⟩ .standard ⟨"12", "noon"⟩).recordAll .none
      twoSpellings).toOption.map (fun s => (s.tables.modules.length, s.tables.hotGroups.length)) =
      some (1, 1) := by decide +kernel
  have uncached : ((Storage.create ⟨7⟩ .standard ⟨"12", "noon"⟩).recordAllAnew
      twoSpellings).toOption.map (fun u => (u.tables.modules.length, u.tables.hotGroups.length)) =
      some (2, 2) := by decide +kernel
  rw [recorded] at cached
  rw [anew] at uncached
  obtain ⟨rows, groups⟩ := Prod.mk.inj (Option.some.inj cached)
  obtain ⟨rows', groups'⟩ := Prod.mk.inj (Option.some.inj uncached)
  have nothing : (Storage.create ⟨7⟩ .standard ⟨"12", "noon"⟩).tables.loadProfiles = [] :=
    List.forall₂_nil_right_iff.1 fresh.holds.loaded
  refine ⟨s, u, recorded, anew, rows, rows', groups, groups', ?_⟩
  rw [fresh.loadProfiles_recordAll recorded, loaded', nothing, List.nil_append, List.nil_append,
    Ne, recordings_eq_iff]
  decide +kernel

end Recording

end BurstProfiler
