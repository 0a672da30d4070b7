import BurstProfiler.Proofs.LossyPaths
import BurstProfiler.Proofs.Memory.Resolving
import Mathlib.Data.List.Induction

/-! One module for one file. Over any use of a resolver, the module of an address is told by the
snapshot in force, where the mapping at the address names the file and the file's first mapping its
base, and by the first use that came upon the file: the build id is what was read then. Nothing that
happens to the file later changes it. -/

set_option autoImplicit false

namespace BurstProfiler.Memory

namespace Maps

def IsFirst (maps : Maps) (p : Mapping → Prop) (m : Mapping) : Prop :=
  p m ∧ ∃ before behind, maps.mappings = before ++ m :: behind ∧ ∀ n ∈ before, ¬ p n

/-- The first executable mapping at an address is one of the file with this path. -/
def Finds (maps : Maps) (address : UInt64) (path : String) : Prop :=
  path.toList.head? = some '/' ∧ ∃ m, maps.IsFirst
    (fun n => 'x' ∈ n.perms.toList ∧ n.start ≤ address ∧ address < n.finish) m ∧
      m.pathname = some path

/-- The first mapping of the file, executable or not, lies this far behind the file's start. -/
def LoadsAt (maps : Maps) (path : String) (base : UInt64) : Prop :=
  ∃ m, maps.IsFirst (fun n => n.pathname = some path) m ∧ m.start - m.offset = base

theorem find?_eq_some_iff_isFirst {maps : Maps} {p : Mapping → Bool} {q : Mapping → Prop}
    (same : ∀ m, p m = true ↔ q m) (m : Mapping) :
    maps.mappings.find? p = some m ↔ maps.IsFirst q m := by
  have others : ∀ n, (!p n) = true ↔ ¬ q n := by
    intro n
    rw [Bool.not_eq_true', ← same n, Bool.not_eq_true]
  simp only [List.find?_eq_some_iff_append, IsFirst, same, others]

theorem findExecutable?_eq_some_iff (maps : Maps) (address : UInt64) (m : Mapping) :
    maps.findExecutable? address = some m ↔ maps.IsFirst
      (fun n => 'x' ∈ n.perms.toList ∧ n.start ≤ address ∧ address < n.finish) m := by
  refine find?_eq_some_iff_isFirst (fun n => ?_) m
  simp only [Mapping.isExecutable, Mapping.contains, Bool.and_eq_true, List.contains_iff_mem,
    decide_eq_true_eq]

theorem loadBase?_eq_some_iff (maps : Maps) (path : String) (base : UInt64) :
    maps.loadBase? path = some base ↔ maps.LoadsAt path base := by
  have first := fun m => @find?_eq_some_iff_isFirst maps (fun n => n.pathname == some path)
    (fun n => n.pathname = some path) (fun n => beq_iff_eq) m
  simp only [loadBase?, LoadsAt, Option.map_eq_some_iff, first, Mapping.loadBase]

theorem filePath?_eq_some_iff (m : Mapping) (path : String) :
    m.filePath? = some path ↔ path.toList.head? = some '/' ∧ m.pathname = some path := by
  rw [Mapping.filePath?, Option.filter_eq_some_iff, beq_iff_eq, and_comm]

end Maps

namespace Resolver

theorem locate?_eq_some_iff (maps : Maps) (address : UInt64) (path : String) (base : UInt64) :
    locate? maps address = some (path, base) ↔
      maps.Finds address path ∧ maps.LoadsAt path base := by
  simp only [locate?, Option.bind_eq_bind, Option.bind_eq_some_iff, Option.pure_def,
    Option.some.injEq, Prod.mk.injEq, Maps.findExecutable?_eq_some_iff,
    Maps.filePath?_eq_some_iff, Maps.loadBase?_eq_some_iff, Maps.Finds]
  constructor
  · rintro ⟨m, first, path, ⟨rooted, named⟩, base, loaded, rfl, rfl⟩
    exact ⟨⟨rooted, m, first, named⟩, loaded⟩
  · rintro ⟨⟨rooted, m, first, named⟩, loaded⟩
    exact ⟨m, first, path, ⟨rooted, named⟩, base, loaded, rfl, rfl⟩

theorem locate?_isSome_iff (maps : Maps) (address : UInt64) :
    (locate? maps address).isSome ↔ ∃ path, maps.Finds address path := by
  constructor
  · intro found
    obtain ⟨⟨path, base⟩, place⟩ := Option.isSome_iff_exists.1 found
    exact ⟨path, ((locate?_eq_some_iff maps address path base).1 place).1⟩
  · rintro ⟨path, finds⟩
    have ⟨_, m, ⟨_, before, behind, split, _⟩, named⟩ := finds
    have member : m ∈ maps.mappings := by simp [split]
    obtain ⟨first, there⟩ := Option.isSome_iff_exists.1
      ((List.find?_isSome (p := fun n => n.pathname == some path)).2 ⟨m, member, by simp [named]⟩)
    have loaded : maps.LoadsAt path first.loadBase := by
      rw [← Maps.loadBase?_eq_some_iff, Maps.loadBase?, there]
      rfl
    have place := (locate?_eq_some_iff maps address path _).2 ⟨finds, loaded⟩
    exact Option.isSome_iff_exists.2 ⟨_, place⟩

end Resolver

inductive Call where
  | lookup (address : UInt64)
  | resolve (address : UInt64)
  | refresh
  deriving DecidableEq, Repr

structure Use where
  around : Surroundings
  call : Call

namespace Use

/-- The snapshot behind a use. A new one is taken for an address that the present one misses. -/
def snapshot (maps : Maps) (u : Use) : Maps :=
  match u.call with
  | .lookup _ => maps
  | .resolve address =>
    if (Resolver.locate? maps address).isSome then maps else u.around.maps.getD maps
  | .refresh => u.around.maps.getD maps

def reached? (maps : Maps) (u : Use) : Option String :=
  match u.call with
  | .lookup address | .resolve address =>
    (Resolver.locate? (u.snapshot maps) address).map Prod.fst
  | .refresh => none

/-- What there is to read of a file, the empty text if there is nothing. -/
def readId (u : Use) (path : String) : String := (u.around.buildId path).getD ""

end Use

def snapshotBehind (maps : Maps) (uses : List Use) : Maps := uses.foldl Use.snapshot maps

/-- The files that uses come upon, each with the build id that is to be read of it then. -/
def readings (maps : Maps) : List Use → List (String × String)
  | [] => []
  | u :: rest =>
    ((u.reached? maps).map (fun path => (path, u.readId path))).toList ++
      readings (u.snapshot maps) rest

/-- What was read of a file when it was first come upon. -/
def firstId? (maps : Maps) (uses : List Use) (path : String) : Option String :=
  ((readings maps uses).find? (fun entry => entry.1 == path)).map Prod.snd

theorem readings_concat (maps : Maps) (uses : List Use) (u : Use) :
    readings maps (uses ++ [u]) = readings maps uses ++
      ((u.reached? (snapshotBehind maps uses)).map (fun path => (path, u.readId path))).toList := by
  induction uses generalizing maps with
  | nil => exact List.append_nil _
  | cons v rest ih =>
    rw [List.cons_append, readings, ih, readings, List.append_assoc]
    rfl

theorem snapshotBehind_concat (maps : Maps) (uses : List Use) (u : Use) :
    snapshotBehind maps (uses ++ [u]) = u.snapshot (snapshotBehind maps uses) := by
  rw [snapshotBehind, List.foldl_append]
  rfl

-- A use counts only for the file that it comes upon, and only if none did before.
theorem firstId?_concat (maps : Maps) (uses : List Use) (u : Use) (path : String) :
    firstId? maps (uses ++ [u]) path = (firstId? maps uses path).or
      (if u.reached? (snapshotBehind maps uses) = some path then some (u.readId path)
        else none) := by
  rw [firstId?, readings_concat, List.find?_append, Option.map_or]
  congr 1
  cases reached : u.reached? (snapshotBehind maps uses) with
  | none => rfl
  | some other =>
    by_cases same : other = path
    · subst same
      simp
    · simp [same]

theorem firstId?_append {maps : Maps} {uses : List Use} {path id : String}
    (read : firstId? maps uses path = some id) (more : List Use) :
    firstId? maps (uses ++ more) path = some id := by
  induction more using List.reverseRecOn with
  | nil => rw [List.append_nil, read]
  | append_singleton more u ih => rw [← List.append_assoc, firstId?_concat, ih, Option.some_or]

namespace Resolver

def after (r : Resolver) (u : Use) : Resolver :=
  match u.call with
  | .lookup address => (r.lookup u.around address).2
  | .resolve address => (r.resolve u.around address).2
  | .refresh => (r.reread u.around).2

def afterAll (r : Resolver) (uses : List Use) : Resolver := uses.foldl after r

section Step

variable (around : Surroundings) (r : Resolver) (address : UInt64)

theorem isSome_lookup :
    (r.lookup around address).1.isSome = (locate? r.maps address).isSome := by
  cases found : locate? r.maps address with
  | none =>
    rw [lookup_none around r address found]
    rfl
  | some place =>
    rw [lookup_some around r place.1 address found]
    rfl

theorem resolve_hit (hit : (locate? r.maps address).isSome) :
    r.resolve around address = r.lookup around address := by
  obtain ⟨⟨path, base⟩, place⟩ := Option.isSome_iff_exists.1 hit
  rw [resolve, lookup_some around r path address place]

theorem resolve_miss (miss : locate? r.maps address = none) :
    r.resolve around address = match around.maps with
      | none => (none, { r with readings := r.readings ++ [none] })
      | some maps =>
        ({ r with maps := maps, readings := r.readings ++ [some maps] }).lookup around address := by
  rw [resolve, lookup_none around r address miss]
  cases read : around.maps with
  | none => simp only [reread, read]
  | some maps => simp only [reread, read]

-- A lookup remembers of the file that it comes upon what it reads now, unless it read of it before.
theorem getElem?_lookup (path : String) :
    (r.lookup around address).2.buildIds[path]? = r.buildIds[path]?.or
      (if (locate? r.maps address).map Prod.fst = some path
        then some ((around.buildId path).getD "") else none) := by
  cases found : locate? r.maps address with
  | none => simp [lookup_none around r address found]
  | some place =>
    obtain ⟨reached, base⟩ := place
    rw [lookup_some around r reached address found]
    simp only [Option.map_some, Option.some.injEq]
    cases known : r.buildIds[reached]? with
    | some id =>
      rw [buildId_known around r reached known]
      by_cases same : reached = path
      · subst same
        simp [known]
      · simp [same]
    | none =>
      rw [buildId_new around r reached known]
      by_cases same : reached = path
      · subst same
        simp [known]
      · simp [same, Std.HashMap.getElem?_insert]

end Step

/-- A resolver behind some uses: it holds the last snapshot and remembers what was first read. -/
structure Behind (maps : Maps) (uses : List Use) (r : Resolver) : Prop where
  snapshot : r.maps = snapshotBehind maps uses
  remembers : ∀ path, r.buildIds[path]? = firstId? maps uses path

theorem behind_nil (maps : Maps) : Behind maps [] (ofMaps maps) :=
  ⟨rfl, fun _ => Std.HashMap.getElem?_empty⟩

section Behind

variable {maps : Maps} {uses : List Use} {r s : Resolver} {u : Use}

theorem Behind.concat (h : Behind maps uses r) (taken : s.maps = u.snapshot r.maps)
    (read : ∀ path, s.buildIds[path]? = r.buildIds[path]?.or
      (if u.reached? r.maps = some path then some (u.readId path) else none)) :
    Behind maps (uses ++ [u]) s := by
  refine ⟨?_, fun path => ?_⟩
  · rw [taken, snapshotBehind_concat, h.snapshot]
  · rw [read, firstId?_concat, h.remembers, h.snapshot]

-- One case for each call, and for an address that is missed one for each outcome of the reading.
theorem Behind.after (h : Behind maps uses r) (u : Use) :
    Behind maps (uses ++ [u]) (r.after u) := by
  obtain ⟨around, call⟩ := u
  cases call with
  | lookup address =>
    exact h.concat (maps_lookup around r address) (getElem?_lookup around r address)
  | resolve address =>
    by_cases hit : (locate? r.maps address).isSome
    · have kept : Use.snapshot r.maps ⟨around, .resolve address⟩ = r.maps := if_pos hit
      have looked : r.after ⟨around, .resolve address⟩ = (r.lookup around address).2 :=
        congrArg Prod.snd (resolve_hit around r address hit)
      rw [looked]
      refine h.concat ((maps_lookup around r address).trans kept.symm) fun path => ?_
      rw [getElem?_lookup, Use.reached?, kept]
      rfl
    · have miss : locate? r.maps address = none := by simpa using hit
      have taken : Use.snapshot r.maps ⟨around, .resolve address⟩ = around.maps.getD r.maps :=
        if_neg hit
      have reached : Use.reached? r.maps ⟨around, .resolve address⟩ =
          (locate? (around.maps.getD r.maps) address).map Prod.fst :=
        congrArg (fun maps => (locate? maps address).map Prod.fst) taken
      have resolved := congrArg Prod.snd (resolve_miss around r address miss)
      cases reread : around.maps with
      | none =>
        rw [reread] at taken reached resolved
        have missed : r.after ⟨around, .resolve address⟩ =
            { r with readings := r.readings ++ [none] } := resolved
        rw [missed]
        refine h.concat taken.symm fun path => ?_
        rw [reached, Option.getD_none, miss, Option.map_none, if_neg nofun, Option.or_none]
      | some new =>
        rw [reread] at taken reached resolved
        have looked : r.after ⟨around, .resolve address⟩ =
            (({ r with maps := new, readings := r.readings ++ [some new] } : Resolver).lookup
              around address).2 := resolved
        rw [looked]
        refine h.concat ((maps_lookup around _ address).trans taken.symm) fun path => ?_
        rw [getElem?_lookup, reached]
        rfl
  | refresh =>
    have unread : ∀ path : String,
        (r.after ⟨around, .refresh⟩).buildIds[path]? = r.buildIds[path]? := by
      intro path
      unfold Resolver.after reread
      cases around.maps <;> rfl
    have taken : (r.after ⟨around, .refresh⟩).maps = Use.snapshot r.maps ⟨around, .refresh⟩ := by
      unfold Resolver.after reread Use.snapshot
      cases around.maps <;> rfl
    have reached : Use.reached? r.maps ⟨around, .refresh⟩ = none := rfl
    refine h.concat taken fun path => ?_
    rw [unread, reached, if_neg nofun, Option.or_none]

theorem behind_afterAll (maps : Maps) (uses : List Use) :
    Behind maps uses ((ofMaps maps).afterAll uses) := by
  induction uses using List.reverseRecOn with
  | nil => exact behind_nil maps
  | append_singleton earlier u ih =>
    rw [afterAll, List.foldl_append]
    exact ih.after u

theorem Behind.lookup_eq_some_iff (h : Behind maps uses r) (around : Surroundings)
    (address : UInt64) (m : Module) :
    (r.lookup around address).1 = some m ↔ ∃ path, (snapshotBehind maps uses).Finds address path ∧
      (snapshotBehind maps uses).LoadsAt path m.base ∧ m.path = .ofString path ∧
      firstId? maps (uses ++ [⟨around, .lookup address⟩]) path = some m.buildId := by
  have behind : Behind maps (uses ++ [⟨around, .lookup address⟩]) (r.lookup around address).2 :=
    h.after ⟨around, .lookup address⟩
  constructor
  · intro hit
    obtain ⟨path, place, name, id⟩ := lookup_hit around r address hit
    rw [h.snapshot, locate?_eq_some_iff] at place
    exact ⟨path, place.1, place.2, name, behind.remembers path ▸ id⟩
  · rintro ⟨path, finds, loads, name, id⟩
    have place := (locate?_eq_some_iff _ address path m.base).2 ⟨finds, loads⟩
    rw [← h.snapshot] at place
    rw [← behind.remembers, lookup_some around r path address place, getElem?_buildId,
      Option.some.injEq] at id
    rw [lookup_some around r path address place, id, ← name]

-- Lookups that come upon one file in one snapshot give one module, however long apart.
theorem eq_of_lookup (maps : Maps) {uses more : List Use} {around around' : Surroundings}
    {address address' : UInt64} {m m' : Module}
    (snapshot : snapshotBehind maps (uses ++ ⟨around, .lookup address⟩ :: more) =
      snapshotBehind maps uses)
    (hit : (((ofMaps maps).afterAll uses).lookup around address).1 = some m)
    (hit' : (((ofMaps maps).afterAll (uses ++ ⟨around, .lookup address⟩ :: more)).lookup
      around' address').1 = some m') (path : m.path = m'.path) : m = m' := by
  obtain ⟨p, -, loads, name, id⟩ :=
    ((behind_afterAll maps uses).lookup_eq_some_iff around address m).1 hit
  obtain ⟨p', -, loads', name', id'⟩ := ((behind_afterAll maps
    (uses ++ ⟨around, .lookup address⟩ :: more)).lookup_eq_some_iff around' address' m').1 hit'
  obtain rfl : p = p' := Path.ofString_injective (name.symm.trans (path.trans name'))
  have base : m.base = m'.base := by
    rw [snapshot] at loads'
    rw [← Maps.loadBase?_eq_some_iff] at loads loads'
    exact Option.some.inj (loads.symm.trans loads')
  have later : uses ++ ⟨around, .lookup address⟩ :: more ++ [⟨around', .lookup address'⟩] =
      (uses ++ [⟨around, .lookup address⟩]) ++ (more ++ [⟨around', .lookup address'⟩]) := by simp
  have buildId : m.buildId = m'.buildId := by
    rw [later, firstId?_append id] at id'
    exact Option.some.inj id'
  cases m
  cases m'
  cases base
  cases buildId
  cases path
  rfl

end Behind

/-- **The module of a file stays the same.** Behind any uses of a resolver, with any files and any
snapshots to be read at each of them, a lookup comes upon a file just when the first executable
mapping at the address is one of it; it gives the file's path, its base in the snapshot in force and
the build id that was to be read of it when a use first came upon it. As long as the snapshot is the
same, lookups that come upon one file give one module. A resolution gives what a lookup gives, and
if that misses, what it gives on a new snapshot, or nothing if there is none. -/
theorem lookup_of_first_reading (maps : Maps) (uses : List Use) (around : Surroundings)
    (address : UInt64) :
    let r := (ofMaps maps).afterAll uses
    let current := snapshotBehind maps uses
    r.maps = current ∧
      ((r.lookup around address).1.isSome ↔ ∃ path, current.Finds address path) ∧
      (∀ m, (r.lookup around address).1 = some m ↔ ∃ path, current.Finds address path ∧
        current.LoadsAt path m.base ∧ m.path = .ofString path ∧
        firstId? maps (uses ++ [⟨around, .lookup address⟩]) path = some m.buildId) ∧
      (∀ more around' address' m m',
        snapshotBehind maps (uses ++ ⟨around, .lookup address⟩ :: more) = current →
        (r.lookup around address).1 = some m →
        (((ofMaps maps).afterAll (uses ++ ⟨around, .lookup address⟩ :: more)).lookup
          around' address').1 = some m' → m.path = m'.path → m = m') ∧
      r.resolve around address = match (r.lookup around address).1, around.maps with
        | some _, _ => r.lookup around address
        | none, some new =>
          ({ r with maps := new, readings := r.readings ++ [some new] }).lookup around address
        | none, none => (none, { r with readings := r.readings ++ [none] }) := by
  intro r current
  have behind : Behind maps uses r := behind_afterAll maps uses
  have hits := isSome_lookup around r address
  refine ⟨behind.snapshot, ?_, behind.lookup_eq_some_iff around address,
    fun more around' address' m m' same hit hit' path => eq_of_lookup maps same hit hit' path, ?_⟩
  · rw [hits, locate?_isSome_iff, behind.snapshot]
  · cases looked : (r.lookup around address).1 with
    | some m =>
      rw [looked] at hits
      exact resolve_hit around r address hits.symm
    | none =>
      rw [resolve_miss around r address (lookup_miss around r address looked)]
      cases around.maps <;> rfl

def mappedTwice : Maps :=
  .parse "1000-2000 r--p 0 0 0 /a\n2000-3000 r-xp 1000 0 0 /a".toList

-- The file has another build id when it is come upon again.
theorem lookup_of_first_reading_rebuilt :
    let built : Surroundings := ⟨fun _ => some "feed", none⟩
    let rebuilt : Surroundings := ⟨fun _ => some "beef", none⟩
    let module : Module := ⟨4096, "feed", .ofString "/a"⟩
    ((ofMaps mappedTwice).lookup built 8192).1 = some module ∧
      (((ofMaps mappedTwice).afterAll [⟨built, .lookup 8192⟩]).lookup rebuilt 8200).1 =
        some module := by
  intro built rebuilt module
  have place : locate? mappedTwice 8192 = some ("/a", 4096) := by decide +kernel
  have place' : locate? mappedTwice 8200 = some ("/a", 4096) := by decide +kernel
  have hit : ((ofMaps mappedTwice).lookup built 8192).1 = some module := by
    rw [lookup_some built (ofMaps mappedTwice) "/a" 8192 place]
    simp [buildId, ofMaps, built, module]
  obtain ⟨-, found, given, -, -⟩ :=
    lookup_of_first_reading mappedTwice [⟨built, .lookup 8192⟩] rebuilt 8200
  obtain ⟨m, again⟩ := Option.isSome_iff_exists.1
    (found.2 ((locate?_isSome_iff mappedTwice 8200).1 (by rw [place']; rfl)))
  obtain ⟨path, finds, loads, name, -⟩ := (given m).1 again
  have same : some (path, m.base) = some ("/a", 4096) :=
    ((locate?_eq_some_iff mappedTwice 8200 path m.base).2 ⟨finds, loads⟩).symm.trans place'
  obtain rfl : path = "/a" := congrArg Prod.fst (Option.some.inj same)
  have one : module = m := (lookup_of_first_reading mappedTwice [] built 8192).2.2.2.1 []
    rebuilt 8200 module m rfl hit again name.symm
  exact ⟨hit, one ▸ again⟩

end Resolver

end BurstProfiler.Memory
