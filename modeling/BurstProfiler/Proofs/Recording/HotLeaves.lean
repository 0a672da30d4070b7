import BurstProfiler.Proofs.Recording.CacheTransparency
import BurstProfiler.Proofs.Recording.Ranking
import Mathlib.Data.Option.Basic

/-! The leaves of a recording. The joins of the query meet, for each innermost frame, the one row
of its sample, the one entry of the module list that its index names and the one row of that
module. So the rows are those of the leaves of the recorded profiles, in order, however modules are
shared or listed, and the answer is the start of their ranking. -/

set_option autoImplicit false

namespace BurstProfiler.Recording

def Leaf.ofFrame (modules : List Module) (f : Frame) : Leaf :=
  match f.moduleIndex.bind (fun i => modules[i]?) with
  | some m => ⟨some m.path.display, f.instructionPointer - m.base⟩
  | none => ⟨none, f.instructionPointer⟩

def leaves (p : Profile) : List Leaf :=
  p.samples.filterMap (fun sample => sample.head?.map (Leaf.ofFrame p.modules))

/-- The signed differences of addresses and bases that make the leaves of a profile do not
overflow. -/
def OffsetsFit (p : Profile) : Prop :=
  ∀ sample ∈ p.samples, ∀ f ∈ sample.head?, ∀ m ∈ f.moduleIndex.bind (fun i => p.modules[i]?),
    fitsSigned (signed f.instructionPointer - signed m.base) = true

instance (p : Profile) : Decidable (OffsetsFit p) :=
  inferInstanceAs (Decidable (∀ sample ∈ p.samples, ∀ f ∈ sample.head?,
    ∀ m ∈ f.moduleIndex.bind (fun i => p.modules[i]?),
      fitsSigned (signed f.instructionPointer - signed m.base) = true))

def LeafRow.ofFrame (modules : List Module) (f : Frame) : LeafRow :=
  let index := (f.within modules.length).moduleIndex.map Int.ofNat
  match f.moduleIndex.bind (fun i => modules[i]?) with
  | some m =>
    ⟨index, some (storedPath m), offsetFrom (signed f.instructionPointer) (signed m.base)⟩
  | none => ⟨index, none, .whole (signed f.instructionPointer)⟩

def leafRows (p : Profile) : List LeafRow :=
  p.samples.filterMap (fun sample => sample.head?.map (LeafRow.ofFrame p.modules))

theorem find?_others {α : Type} {key : α → Int} {id : Int} {rows : List α}
    (others : ∀ row ∈ rows, key row ≠ id) : rows.find? (fun row => key row == id) = none := by
  rw [List.find?_eq_none]
  intro row member same
  exact others row member (beq_iff_eq.1 same)

theorem find?_otherLinks {profile : Int} {rows : List LinkRow}
    (others : ∀ link ∈ rows, link.profile ≠ profile) (ordinal : Int) :
    rows.find? (fun link => link.profile == profile && link.ordinal == ordinal) = none := by
  rw [List.find?_eq_none]
  intro link member same
  rw [Bool.and_eq_true] at same
  exact others link member (beq_iff_eq.1 same.1)

section Earlier

variable {t : Tables} {p : Profile} {ids : List Int} {more : List ModuleRow}

theorem find?_samples_extended {sample : Int} (old : sample < t.nextSample) :
    (t.extended p ids more).samples.find? (fun row => row.id == sample) =
      t.samples.find? (fun row => row.id == sample) := by
  have none : (sampleRows t.nextSample t.nextProfile 0 p.samples).find?
      (fun row => row.id == sample) = none := by
    apply find?_others
    intro row member
    have behind := (mem_sampleRows member).1
    omega
  unfold Tables.extended
  rw [List.find?_append, none, Option.or_none]

theorem linkedModule?_extended (h : t.Consistent) {profile : Int} (old : profile < t.nextProfile)
    (ordinal : Int) :
    (t.extended p ids more).linkedModule? profile ordinal = t.linkedModule? profile ordinal := by
  have others : ∀ link ∈ linkRows t.nextProfile ids, link.profile ≠ profile := by
    intro link member
    obtain ⟨_, _, rfl⟩ := List.mem_map.1 member
    exact Int.ne_of_gt old
  have links : (t.extended p ids more).links.find?
        (fun link => link.profile == profile && link.ordinal == ordinal) =
      t.links.find? (fun link => link.profile == profile && link.ordinal == ordinal) := by
    unfold Tables.extended
    rw [List.find?_append, find?_otherLinks others, Option.or_none]
  unfold Tables.linkedModule?
  rw [links]
  cases found : t.links.find?
      (fun link => link.profile == profile && link.ordinal == ordinal) with
  | none => rfl
  | some link =>
    obtain ⟨-, row, named⟩ := h.links link (List.mem_of_find?_eq_some found)
    dsimp only
    rw [named]
    exact find?_extended named

theorem leafRow_extended (h : t.Consistent) {profile : Int} (old : profile < t.nextProfile)
    (frame : FrameRow) :
    (t.extended p ids more).leafRow profile frame = t.leafRow profile frame := by
  unfold Tables.leafRow
  rw [funext (linkedModule?_extended h old)]

/-- What the query makes of a frame that it joins with its sample. -/
def Tables.joinedRow? (t : Tables) (frame : FrameRow) : Option LeafRow :=
  (t.samples.find? (fun row => row.id == frame.sample)).map (fun row => t.leafRow row.profile frame)

theorem leafRows_eq (t : Tables) :
    t.leafRows = (t.frames.filter (fun frame => frame.depth == 0)).filterMap t.joinedRow? := rfl

theorem joinedRow?_extended (h : t.Consistent) {frame : FrameRow} (old : frame ∈ t.frames) :
    (t.extended p ids more).joinedRow? frame = t.joinedRow? frame := by
  unfold Tables.joinedRow?
  rw [find?_samples_extended (h.frames frame old)]
  cases found : t.samples.find? (fun row => row.id == frame.sample) with
  | none => rfl
  | some row =>
    exact congrArg some
      (leafRow_extended h (h.samples row (List.mem_of_find?_eq_some found)) frame)

end Earlier

section New

theorem find?_linkRows (profile : Int) {ids : List Int} {i : Nat} {id : Int} (start : Nat)
    (place : ids[i]? = some id) :
    ((ids.zipIdx start).map (fun entry => (⟨profile, entry.2, entry.1⟩ : LinkRow))).find?
        (fun link => link.profile == profile && link.ordinal == ((start + i : Nat) : Int)) =
      some ⟨profile, (start + i : Nat), id⟩ := by
  induction ids generalizing start i with
  | nil => cases place
  | cons first rest ih =>
    rw [List.zipIdx_cons, List.map_cons, List.find?_cons]
    cases i with
    | zero =>
      cases place
      simp
    | succ i =>
      have later := ih (start + 1) place
      have number : start + 1 + i = start + (i + 1) := by omega
      have other : ((start : Int) == ((start + (i + 1) : Nat) : Int)) = false := by
        rw [beq_eq_false_iff_ne]
        omega
      rw [number] at later
      dsimp only
      rw [other, Bool.and_false]
      exact later

theorem find?_sampleRows (profile : Int) (position : Nat) {first id : Int} {samples : List Sample}
    (least : first ≤ id) (last : id < first + samples.length) :
    ∃ row, (sampleRows first profile position samples).find? (fun row => row.id == id) = some row ∧
      row.profile = profile := by
  induction samples generalizing first position with
  | nil =>
    rw [List.length_nil] at last
    omega
  | cons sample rest ih =>
    rw [List.length_cons] at last
    rw [sampleRows, List.find?_cons]
    by_cases own : first = id
    · rw [beq_iff_eq.2 own]
      exact ⟨_, rfl, rfl⟩
    · rw [beq_eq_false_iff_ne.2 own]
      exact ih (position + 1) (by omega) (by omega)

theorem filter_frameRows (sample : Int) (modules : Nat) (frames : Sample) :
    (frameRows sample modules frames).filter (fun row => row.depth == 0) =
      (frames.head?.map (fun f => frameRow sample modules f 0)).toList := by
  cases frames with
  | nil => rfl
  | cons f rest =>
    have deeper : ((rest.zipIdx 1).map (fun entry =>
        frameRow sample modules entry.1 entry.2)).filter (fun row => row.depth == 0) = [] := by
      rw [List.filter_eq_nil_iff]
      intro row member
      obtain ⟨entry, place, rfl⟩ := List.mem_map.1 member
      have depth := List.le_snd_of_mem_zipIdx place
      unfold frameRow
      rw [beq_iff_eq]
      dsimp only
      omega
    rw [frameRows, List.zipIdx_cons, List.map_cons, List.filter_cons_of_pos rfl, deeper]
    rfl

theorem filterMap_framesBehind {first : Int} {modules : Nat} {samples : List Sample}
    {join : FrameRow → Option LeafRow} {leaf : Frame → LeafRow}
    (joined : ∀ id, first ≤ id → id < first + samples.length → ∀ f,
      join (frameRow id modules f 0) = some (leaf f)) :
    ((framesBehind first modules samples).filter (fun row => row.depth == 0)).filterMap join =
      samples.filterMap (fun sample => sample.head?.map leaf) := by
  induction samples generalizing first with
  | nil => rfl
  | cons sample rest ih =>
    rw [List.length_cons] at joined
    have behind := @ih (first + 1) (fun id least last => joined id (by omega) (by omega))
    rw [framesBehind, List.filter_append, List.filterMap_append, filter_frameRows, behind]
    cases sample with
    | nil => rfl
    | cons f _ =>
      have head : join (frameRow first modules f 0) = some (leaf f) :=
        joined first (by omega) (by omega) f
      simp [head]

variable {s t : Storage} {p : Profile} {ids : List Int} {more : List ModuleRow}
  {made : List CacheEntry}

-- An index inside the module list leads through the profile's entry to the row of its module.
theorem linkedModule?_recorded (told : s.Recorded p t ids more made)
    (before : s.tables.Consistent) (keyed : t.tables.Keyed) {i : Nat} {m : Module}
    (place : p.modules[i]? = some m) :
    ∃ row, t.tables.linkedModule? s.tables.nextProfile i = some row ∧
      row.base = signed (taken (s.cache.map Prod.fst) m).base ∧
      row.path = storedPath (taken (s.cache.map Prod.fst) m) := by
  have known := congrArg (fun l => l[i]?) told.ensured.ids
  simp only [List.getElem?_map, place, Option.map_some] at known
  obtain ⟨id, entry, named⟩ := Option.map_eq_some_iff.1 known
  rw [told.tables] at keyed ⊢
  obtain ⟨row, found, base, -, path⟩ := exists_row_of_rowId? keyed named.symm
  have others : ∀ link ∈ s.tables.links, link.profile ≠ s.tables.nextProfile :=
    fun link member => Int.ne_of_lt (before.links link member).1
  have link : (s.tables.extended p ids more).links.find?
        (fun link => link.profile == s.tables.nextProfile && link.ordinal == (i : Int)) =
      some ⟨s.tables.nextProfile, i, id⟩ := by
    have own := find?_linkRows s.tables.nextProfile 0 entry
    rw [Nat.zero_add] at own
    unfold Tables.extended
    rw [List.find?_append, find?_otherLinks others, Option.none_or]
    exact own
  refine ⟨row, ?_, base, path⟩
  unfold Tables.linkedModule?
  rw [link]
  exact found

theorem leafRow_recorded (told : s.Recorded p t ids more made) (before : s.tables.Consistent)
    (keyed : t.tables.Keyed) (sample : Int) (f : Frame) (depth : Nat) :
    t.tables.leafRow s.tables.nextProfile (frameRow sample p.modules.length f depth) =
      .ofFrame (p.modules.map (taken (s.cache.map Prod.fst))) f := by
  unfold Tables.leafRow LeafRow.ofFrame Frame.within frameRow
  rw [List.length_map]
  cases f.moduleIndex with
  | none => rfl
  | some i =>
    by_cases inside : i < p.modules.length
    · obtain ⟨row, found, base, path⟩ := linkedModule?_recorded told before keyed
        (List.getElem?_eq_getElem inside)
      have index : (Option.some i).filter (fun i => decide (i < p.modules.length)) = some i :=
        Option.filter_some_pos (decide_eq_true inside)
      simp only [index, Option.map_some, Option.bind_some, Int.ofNat_eq_natCast, found,
        List.getElem?_map, List.getElem?_eq_getElem inside, base, path]
    · have index : (Option.some i).filter (fun i => decide (i < p.modules.length)) = none :=
        Option.filter_some_neg (decide_eq_false inside)
      simp only [index, Option.map_none, Option.bind_none, Option.bind_some, List.getElem?_map,
        List.getElem?_eq_none (Nat.le_of_not_lt inside)]

theorem leafRows_recorded (told : s.Recorded p t ids more made) (before : s.tables.Consistent)
    (keyed : t.tables.Keyed) :
    t.tables.leafRows = s.tables.leafRows ++ p.samples.filterMap (fun sample =>
      sample.head?.map (LeafRow.ofFrame (p.modules.map (taken (s.cache.map Prod.fst))))) := by
  have joined : ∀ id, s.tables.nextSample ≤ id → id < s.tables.nextSample + p.samples.length →
      ∀ f, t.tables.joinedRow? (frameRow id p.modules.length f 0) =
        some (.ofFrame (p.modules.map (taken (s.cache.map Prod.fst))) f) := by
    intro id least last f
    obtain ⟨row, found, own⟩ := find?_sampleRows s.tables.nextProfile 0 least last
    have none : s.tables.samples.find? (fun row => row.id == id) = none := by
      apply find?_others
      intro row member
      have older : row.id < s.tables.nextSample := lt_nextId (List.mem_map_of_mem member)
      omega
    have whole : t.tables.samples.find? (fun row => row.id == id) = some row := by
      rw [told.tables]
      unfold Tables.extended
      rw [List.find?_append, none, Option.none_or]
      exact found
    unfold Tables.joinedRow?
    have same : (frameRow id p.modules.length f 0).sample = id := rfl
    rw [same, whole, Option.map_some, own, leafRow_recorded told before keyed]
  have frames : t.tables.frames = s.tables.frames ++
      framesBehind s.tables.nextSample p.modules.length p.samples := by rw [told.tables]; rfl
  rw [leafRows_eq, frames, List.filter_append, List.filterMap_append,
    filterMap_framesBehind joined, leafRows_eq]
  congr 1
  apply List.filterMap_congr
  intro frame member
  rw [told.tables]
  exact joinedRow?_extended before (List.mem_of_mem_filter member)

end New

section Keys

theorem signed_sub {a b : UInt64} (fits : fitsSigned (signed a - signed b) = true) :
    signed (a - b) = signed a - signed b := by
  have small := a.toNat_lt
  have small' := b.toNat_lt
  have difference := UInt64.toNat_sub a b
  unfold fitsSigned minSigned maxSigned at fits
  simp only [Bool.and_eq_true, decide_eq_true_eq] at fits
  unfold signed at fits ⊢
  rw [difference]
  split <;> split at fits <;> split at fits <;> omega

theorem key_ofFrame {modules : List Module} {f : Frame}
    (fits : ∀ m ∈ f.moduleIndex.bind (fun i => modules[i]?),
      fitsSigned (signed f.instructionPointer - signed m.base) = true) :
    (Leaf.ofFrame modules f).key = (LeafRow.ofFrame modules f).key := by
  unfold Leaf.ofFrame LeafRow.ofFrame
  cases found : f.moduleIndex.bind (fun i => modules[i]?) with
  | none => rfl
  | some m =>
    have own := fits m found
    simp only [Leaf.key, LeafRow.key, storedPath, signed_sub own, offsetFrom, own, if_true,
      Offset.value]

theorem map_key_leaves {p : Profile} (fits : OffsetsFit p) :
    (leaves p).map Leaf.key = (leafRows p).map LeafRow.key := by
  unfold leaves leafRows
  rw [List.map_filterMap, List.map_filterMap]
  apply List.filterMap_congr
  intro sample member
  cases innermost : sample.head? with
  | none => rfl
  | some f => exact congrArg some (key_ofFrame (fits sample member f innermost))

theorem isReal_offsetFrom (address base : Int) :
    (offsetFrom address base).isReal = false ↔ fitsSigned (address - base) = true := by
  unfold offsetFrom
  split <;> simp_all [Offset.isReal]

theorem isReal_ofFrame (modules : List Module) (f : Frame) :
    (LeafRow.ofFrame modules f).offset.isReal = false ↔
      ∀ m ∈ f.moduleIndex.bind (fun i => modules[i]?),
        fitsSigned (signed f.instructionPointer - signed m.base) = true := by
  unfold LeafRow.ofFrame
  cases f.moduleIndex.bind (fun i => modules[i]?) with
  | none => exact ⟨fun _ _ none => (nomatch none), fun _ => rfl⟩
  | some m =>
    simp only [Option.mem_some_iff, forall_eq']
    exact isReal_offsetFrom _ _

theorem mem_leafRows {p : Profile} {row : LeafRow} : row ∈ leafRows p ↔
    ∃ sample ∈ p.samples, ∃ f ∈ sample.head?, LeafRow.ofFrame p.modules f = row := by
  simp only [leafRows, List.mem_filterMap, Option.map_eq_some_iff, Option.mem_def]

theorem offsetsFit_iff {p : Profile} :
    OffsetsFit p ↔ ∀ row ∈ leafRows p, row.offset.isReal = false := by
  constructor
  · intro fits row member
    obtain ⟨sample, there, f, innermost, rfl⟩ := mem_leafRows.1 member
    exact (isReal_ofFrame p.modules f).2 (fits sample there f innermost)
  · intro whole sample there f innermost
    exact (isReal_ofFrame p.modules f).1
      (whole _ (mem_leafRows.2 ⟨sample, there, f, innermost, rfl⟩))

theorem module?_map (modules : List Module) (change : Module → Module) (f : Frame) :
    f.moduleIndex.bind (fun i => (modules.map change)[i]?) =
      (f.moduleIndex.bind (fun i => modules[i]?)).map change := by
  simp only [List.getElem?_map, Option.map_bind, Function.comp_def]

theorem module?_within (modules : List Module) (f : Frame) :
    (f.within modules.length).moduleIndex.bind (fun i => modules[i]?) =
      f.moduleIndex.bind (fun i => modules[i]?) := by
  unfold Frame.within
  cases f.moduleIndex with
  | none => rfl
  | some i =>
    by_cases inside : i < modules.length
    · simp [Option.filter, inside]
    · simp [Option.filter, inside]

theorem within_within (n : Nat) (f : Frame) : (f.within n).within n = f.within n := by
  simp [Frame.within, Option.filter_filter]

theorem ofFrame_within (modules : List Module) (f : Frame) :
    LeafRow.ofFrame modules (f.within modules.length) = .ofFrame modules f := by
  unfold LeafRow.ofFrame
  rw [module?_within, within_within]
  rfl

theorem ofFrame_recorded (modules : List Module) (f : Frame) :
    LeafRow.ofFrame (modules.map Module.recorded) f = .ofFrame modules f := by
  unfold LeafRow.ofFrame
  rw [module?_map, List.length_map]
  cases f.moduleIndex.bind (fun i => modules[i]?) with
  | none => rfl
  | some m =>
    have path : storedPath m.recorded = storedPath m := Path.display_ofString _
    have base : m.recorded.base = m.base := rfl
    simp only [Option.map_some, path, base]

theorem samples_recordedBehind (earlier : List Profile) (p : Profile) :
    (recordedBehind earlier p).samples =
      p.samples.map (List.map (Frame.within (recordedBehind earlier p).modules.length)) := by
  unfold recordedBehind
  rw [List.length_map]
  rfl

theorem leafRows_recordedBehind {known : List Module} {earlier : List Profile} {p : Profile}
    (stored : (recordedBehind earlier p).modules =
      (p.modules.map (taken known)).map Module.recorded) :
    leafRows (recordedBehind earlier p) = p.samples.filterMap (fun sample =>
      sample.head?.map (LeafRow.ofFrame (p.modules.map (taken known)))) := by
  unfold leafRows
  rw [samples_recordedBehind, List.filterMap_map]
  congr 1
  funext sample
  simp only [Function.comp_apply, List.head?_map, Option.map_map]
  congr 1
  funext f
  rw [Function.comp_apply, ofFrame_within, stored, ofFrame_recorded]

-- Storing drops indices outside the module list only, and a remembered module has the same base.
theorem offsetsFit_recordedBehind (earlier : List Profile) (p : Profile) :
    OffsetsFit (recordedBehind earlier p) ↔ OffsetsFit p := by
  have base : ∀ m, ((remembered? earlier m).getD m).recorded.base = m.base := by
    intro m
    cases remembered : remembered? earlier m with
    | none => rfl
    | some n => exact (Module.same_fields (same_of_remembered remembered)).1
  have modules : (recordedBehind earlier p).modules =
      p.modules.map (fun m => ((remembered? earlier m).getD m).recorded) := rfl
  unfold OffsetsFit
  rw [samples_recordedBehind, List.forall_mem_map]
  refine forall₂_congr fun sample _ => ?_
  rw [List.head?_map, Option.forall_mem_map]
  refine forall₂_congr fun f _ => ?_
  have named : (f.within (recordedBehind earlier p).modules.length).moduleIndex.bind
        (fun i => (recordedBehind earlier p).modules[i]?) =
      (f.moduleIndex.bind (fun i => p.modules[i]?)).map
        (fun m => ((remembered? earlier m).getD m).recorded) := by
    rw [module?_within, modules, module?_map]
  have address : (f.within (recordedBehind earlier p).modules.length).instructionPointer =
      f.instructionPointer := rfl
  simp only [named, address, Option.forall_mem_map, base]

theorem offsetsFit_recordings {earlier profiles : List Profile} :
    (∀ p ∈ recordings earlier profiles, OffsetsFit p) ↔ ∀ p ∈ profiles, OffsetsFit p := by
  induction profiles generalizing earlier with
  | nil => exact Iff.rfl
  | cons p rest ih =>
    rw [recordings, List.forall_mem_cons, List.forall_mem_cons, offsetsFit_recordedBehind, ih]

theorem map_key_flatMap_leaves {profiles : List Profile} (fits : ∀ p ∈ profiles, OffsetsFit p) :
    (profiles.flatMap leaves).map Leaf.key = (profiles.flatMap leafRows).map LeafRow.key := by
  rw [List.map_flatMap, List.map_flatMap]
  exact List.flatMap_congr fun p member => map_key_leaves (fits p member)

theorem length_leaves (p : Profile) :
    (leaves p).length = p.samples.countP (fun sample => !sample.isEmpty) := by
  unfold leaves
  induction p.samples with
  | nil => rfl
  | cons sample rest ih =>
    cases sample with
    | nil => exact ih
    | cons f frames =>
      rw [List.filterMap_cons, List.head?_cons, Option.map_some, List.length_cons, ih,
        List.countP_cons_of_pos rfl]

theorem length_leaves_recordings (earlier profiles : List Profile) :
    ((recordings earlier profiles).flatMap leaves).length =
      (profiles.flatMap Profile.samples).countP (fun sample => !sample.isEmpty) := by
  induction profiles generalizing earlier with
  | nil => rfl
  | cons p rest ih =>
    have samples : (recordedBehind earlier p).samples.countP (fun sample => !sample.isEmpty) =
        p.samples.countP (fun sample => !sample.isEmpty) := by
      have mapped : (recordedBehind earlier p).samples =
          p.samples.map (List.map (Frame.within p.modules.length)) := rfl
      rw [mapped, List.countP_map]
      congr 1
      funext sample
      rw [Function.comp_apply, List.isEmpty_map]
    rw [recordings, List.flatMap_cons, List.length_append, ih, length_leaves, samples,
      List.flatMap_cons, List.countP_append]

end Keys

section Runs

theorem recordings_concat (earlier profiles : List Profile) (p : Profile) :
    recordings earlier (profiles ++ [p]) =
      recordings earlier profiles ++ [recordedBehind (earlier ++ profiles) p] := by
  induction profiles generalizing earlier with
  | nil =>
    rw [List.append_nil]
    rfl
  | cons q rest ih =>
    rw [List.cons_append, recordings, recordings, ih, List.append_assoc]
    rfl

theorem length_sampleRows (first profile : Int) (position : Nat) (samples : List Sample) :
    (sampleRows first profile position samples).length = samples.length := by
  induction samples generalizing first position with
  | nil => rfl
  | cons _ rest ih => rw [sampleRows, List.length_cons, ih, List.length_cons]

theorem length_samples_extended (t : Tables) (p : Profile) (ids : List Int)
    (more : List ModuleRow) :
    (t.extended p ids more).samples.length = t.samples.length + p.samples.length := by
  unfold Tables.extended
  rw [List.length_append, length_sampleRows]

/-- A storage whose recording the query reads as the rows of a list of profiles. -/
structure Storage.Shows (s : Storage) (profiles : List Profile) : Prop where
  remembers : s.Remembers profiles
  loaded : s.tables.loadProfiles = recordings [] profiles
  samples : s.tables.samples.length = (profiles.flatMap Profile.samples).length
  listed : s.tables.leafRows = (recordings [] profiles).flatMap leafRows

theorem Storage.shows_create (thread : ThreadId) (params : Params) (origin : Origin) :
    (create thread params origin).Shows [] := by
  have remembers := remembers_create thread params origin
  exact ⟨remembers, List.forall₂_nil_right_iff.1 remembers.holds.loaded, rfl, rfl⟩

variable {faults : Faults} {s t : Storage} {profiles : List Profile} {p : Profile} {id : Int}

-- Where no difference overflows, the keys are those of the leaves.
theorem Storage.Shows.keys (h : s.Shows profiles) (fits : ∀ p ∈ profiles, OffsetsFit p) :
    s.tables.hotKeys = ((recordings [] profiles).flatMap leaves).map Leaf.key := by
  rw [Tables.hotKeys, h.listed, map_key_flatMap_leaves (offsetsFit_recordings.2 fits)]

theorem Storage.Shows.whole (h : s.Shows profiles) (fits : ∀ p ∈ profiles, OffsetsFit p) :
    ∀ row ∈ s.tables.leafRows, row.offset.isReal = false := by
  intro row member
  rw [h.listed, List.mem_flatMap] at member
  obtain ⟨p, stored, own⟩ := member
  exact offsetsFit_iff.1 (offsetsFit_recordings.2 fits p stored) row own

theorem Storage.Shows.record (h : s.Shows profiles) (recorded : s.record faults p = (.ok id, t)) :
    t.Shows (profiles ++ [p]) := by
  obtain ⟨ids, more, made, told⟩ := exists_recorded h.remembers.exact recorded
  have behind := h.remembers.record recorded
  refine ⟨behind, ?_, ?_, ?_⟩
  · rw [h.remembers.loadProfiles recorded, h.loaded, recordings_concat]
    rfl
  · rw [told.tables, length_samples_extended, h.samples, List.flatMap_append, List.length_append,
      List.flatMap_singleton]
  · have stored : (recordedBehind profiles p).modules =
        (p.modules.map (taken (s.cache.map Prod.fst))).map Module.recorded := by
      unfold recordedBehind
      simp only [List.map_map, Function.comp_def, h.remembers.taken]
    rw [leafRows_recorded told h.remembers.holds.consistent behind.holds.sound.keyed,
      h.listed, recordings_concat, List.flatMap_append, List.flatMap_singleton, List.nil_append,
      leafRows_recordedBehind stored]

/-- **The ranking of hot frames.** Over whatever was recorded, as long as the signed differences of
the leaves do not overflow, the leaves of the profiles as they are stored have one ranking: each
leaf once, with its number of samples, in order, and every sample with frames counted once. For
every limit and threshold the query answers with those of the first frames that reach the
threshold, out of all samples; and where no larger count misses a threshold that a smaller one
reaches, it comes to the same whether limit or threshold is applied first. -/
theorem hotFrames_ranked (thread : ThreadId) (params : Params) (origin : Origin)
    (attempts : List Attempt) :
    let s := (Storage.create thread params origin).attemptAll attempts
    let profiles := (Storage.create thread params origin).succeeded attempts
    let stored := recordings [] profiles
    (∀ p ∈ profiles, OffsetsFit p) →
    s.tables.loadProfiles = stored ∧
    ∃ ranked, Ranks (stored.flatMap leaves) ranked ∧
      (∀ other, Ranks (stored.flatMap leaves) other → other = ranked) ∧
      (ranked.map HotFrame.samples).sum =
        (profiles.flatMap Profile.samples).countP (fun sample => !sample.isEmpty) ∧
      (∀ limit reaches, s.tables.hotFrames limit reaches =
        .ok ((firstFrames limit ranked).filter (fun f => reaches f.samples))) ∧
      (∀ limit threshold, s.tables.hotFramesFrom limit threshold =
        .ok ((firstFrames limit ranked).filter (fun f =>
          atLeast (percent f.samples (profiles.flatMap Profile.samples).length) threshold))) ∧
      ∀ (limit : Nat) (reaches : Nat → Bool),
        (∀ m n, m ≤ n → reaches m = true → reaches n = true) →
        (firstFrames limit ranked).filter (fun f => reaches f.samples) =
          firstFrames limit (ranked.filter (fun f => reaches f.samples)) := by
  intro s profiles stored fits
  have shows : s.Shows profiles :=
    Storage.attemptAll_induction Storage.Shows (fun held recorded => held.record recorded)
      (Storage.shows_create thread params origin) attempts
  have keys := shows.keys fits
  have whole := shows.whole fits
  have ranks := ranks_rankedLeaves (stored.flatMap leaves)
  refine ⟨shows.loaded, rankedLeaves (stored.flatMap leaves), ranks,
    fun _ same => same.eq ranks, ?_,
    fun limit reaches => hotFrames_of_hotKeys keys whole limit reaches, fun limit threshold => ?_,
    fun limit reaches monotone => filter_firstFrames ranks.ordered monotone limit⟩
  · rw [ranks.covers, length_leaves_recordings]
  · rw [Tables.hotFramesFrom, hotFrames_of_hotKeys keys whole, shows.samples]

/-- One file at two bases, listed twice in the second profile, an empty sample, and an address
without a module. -/
def sharedAttempts : List Attempt :=
  [⟨.none, { briefProfile 4096 97 with samples := [[⟨4100, some 0⟩]] }⟩,
    ⟨.none, { briefProfile 8192 97 with
      modules := [⟨8192, "feed", ⟨[47, 97]⟩⟩, ⟨8192, "feed", ⟨[47, 97]⟩⟩]
      samples := [[⟨8196, some 1⟩, ⟨8200, some 0⟩], [], [⟨57005, none⟩]] }⟩]

theorem hotFrames_ranked_shared :
    let s := (Storage.create ⟨7⟩ .standard ⟨"12", "noon"⟩).attemptAll sharedAttempts
    let profiles := (Storage.create ⟨7⟩ .standard ⟨"12", "noon"⟩).succeeded sharedAttempts
    (∀ p ∈ profiles, OffsetsFit p) ∧
      (recordings [] profiles).flatMap leaves =
        [⟨some "/a", 4⟩, ⟨some "/a", 4⟩, ⟨none, 57005⟩] ∧
      ∃ ranked, Ranks ((recordings [] profiles).flatMap leaves) ranked ∧
        ∀ limit reaches, s.tables.hotFrames limit reaches =
          .ok ((firstFrames limit ranked).filter (fun f => reaches f.samples)) := by
  intro s profiles
  have fits : ∀ p ∈ profiles, OffsetsFit p := by decide +kernel
  obtain ⟨-, ranked, ranks, -, -, query, -⟩ :=
    hotFrames_ranked ⟨7⟩ .standard ⟨"12", "noon"⟩ sharedAttempts fits
  exact ⟨fits, by decide +kernel, ranked, ranks, query⟩

end Runs

end BurstProfiler.Recording
