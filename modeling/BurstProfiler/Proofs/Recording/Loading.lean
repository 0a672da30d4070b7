import BurstProfiler.Proofs.Recording.Writing
import BurstProfiler.Recording.Loading

/-! What is read back of the rows that a transaction wrote. The rows of a profile stand in the order
in which they are asked for, so no sorting moves them, and the joined rows fall apart into the
samples where the id changes. -/

set_option autoImplicit false

namespace BurstProfiler

/-- A length of time as it can be stored: in whole microseconds that a signed word holds. -/
def Duration.storable (d : Duration) : Duration where
  nanos := min d.micros 9_223_372_036_854_775_807 * 1000
  nanos_lt := by
    unfold limit
    omega

/-- A frame without its index where that is outside the module list. -/
def Frame.within (modules : Nat) (f : Frame) : Frame :=
  ⟨f.instructionPointer, f.moduleIndex.filter (· < modules)⟩

/-- A module as it can be stored: the text of its path stands for the path. -/
def Module.recorded (m : Module) : Module := ⟨m.base, m.buildId, .ofString m.path.display⟩

def Profile.recorded (p : Profile) : Profile where
  modules := p.modules.map Module.recorded
  samples := p.samples.map (List.map (Frame.within p.modules.length))
  duration := p.duration.storable
  period := p.period.storable
  preservesOrder := p.preservesOrder

end BurstProfiler

namespace BurstProfiler.Recording

open Tables

section Values

theorem loadedDuration_storedMicros (d : Duration) :
    loadedDuration (storedMicros d) = d.storable := by
  have small : (storedMicros d).toNat = min d.micros 9_223_372_036_854_775_807 := by
    unfold storedMicros maxSigned
    omega
  have fits : min d.micros 9_223_372_036_854_775_807 < 2 ^ 64 := by omega
  unfold loadedDuration Duration.ofMicros Duration.storable
  simp only [Duration.mk.injEq]
  rw [small, UInt64.toNat_ofNat', Nat.mod_eq_of_lt fits]

theorem loadFrame_frameRow (modules : Nat) (sample : Int) (frame : Frame) (depth : Nat) :
    loadFrame modules (frameRow sample modules frame depth) = frame.within modules := by
  unfold loadFrame frameRow Frame.within
  rw [word_signed]
  congr 1
  cases frame.moduleIndex with
  | none => rfl
  | some i =>
    by_cases inside : i < modules
    · simp [Option.filter, inside]
    · simp [Option.filter, inside]

theorem preserved_flag (flag : Bool) : (((if flag then 1 else 0) : Int) != 0) = flag := by
  cases flag <;> rfl

end Values

section Samples

def joinSample (id position : Int) : List FrameRow → List Joined
  | [] => [⟨id, position, none⟩]
  | frames => frames.map (fun frame => ⟨id, position, some frame⟩)

def joinSamples (modules : Nat) (first : Int) (position : Nat) : List Sample → List Joined
  | [] => []
  | frames :: rest =>
    joinSample first position (frameRows first modules frames) ++
      joinSamples modules (first + 1) (position + 1) rest

theorem joinSample_ne_nil (id position : Int) (frames : List FrameRow) :
    joinSample id position frames ≠ [] := by
  cases frames <;> simp [joinSample]

theorem mem_joinSample {id position : Int} {frames : List FrameRow} {row : Joined}
    (member : row ∈ joinSample id position frames) :
    row.sample = id ∧ row.position = position := by
  cases frames with
  | nil =>
    rw [joinSample, List.mem_singleton] at member
    exact member ▸ ⟨rfl, rfl⟩
  | cons frame rest =>
    obtain ⟨_, _, rfl⟩ := List.mem_map.1 member
    exact ⟨rfl, rfl⟩

theorem mem_joinSamples {modules : Nat} {first : Int} {position : Nat} {samples : List Sample}
    {row : Joined} (member : row ∈ joinSamples modules first position samples) :
    first ≤ row.sample ∧ (position : Int) ≤ row.position := by
  induction samples generalizing first position with
  | nil => cases member
  | cons frames rest ih =>
    rcases List.mem_append.1 member with here | later
    · obtain ⟨id, place⟩ := mem_joinSample here
      omega
    · have behind := ih later
      omega

theorem regroup_break (modules : Nat) (row : Joined) {rest : List Joined}
    (other : ∀ next ∈ rest, next.sample ≠ row.sample) :
    regroup modules (row :: rest) =
      row.frame.toList.map (loadFrame modules) :: regroup modules rest := by
  rw [regroup.eq_def]
  dsimp only
  split
  · rename_i found
    rw [if_neg (other _ List.mem_cons_self), found]
  · rfl

-- A row of another sample ends the one before it.
theorem regroup_append (modules : Nat) {block rest : List Joined} {id : Int} (nonempty : block ≠ [])
    (one : ∀ row ∈ block, row.sample = id) (other : ∀ row ∈ rest, row.sample ≠ id) :
    regroup modules (block ++ rest) =
      block.flatMap (fun row => row.frame.toList.map (loadFrame modules)) ::
        regroup modules rest := by
  induction block with
  | nil => exact absurd rfl nonempty
  | cons row block ih =>
    have own : row.sample = id := one row List.mem_cons_self
    have others : ∀ row ∈ block, row.sample = id :=
      fun row member => one row (List.mem_cons_of_mem _ member)
    rw [List.flatMap_cons]
    cases block with
    | nil =>
      rw [List.flatMap_nil, List.append_nil]
      exact regroup_break modules row (fun next member => own ▸ other next member)
    | cons second block =>
      have same : second.sample = row.sample := by
        rw [own]
        exact others second List.mem_cons_self
      have more := ih (List.cons_ne_nil _ _) others
      rw [List.cons_append] at more
      rw [List.cons_append, List.cons_append, regroup.eq_2 modules row _ _ _ _ more, if_pos same]

theorem flatMap_joinSample (modules : Nat) (id position : Int) (frames : List FrameRow) :
    (joinSample id position frames).flatMap (fun row => row.frame.toList.map (loadFrame modules)) =
      frames.map (loadFrame modules) := by
  cases frames with
  | nil => rfl
  | cons frame rest =>
    rw [joinSample, List.flatMap_map, List.map_eq_flatMap]
    · rfl
    · exact List.cons_ne_nil _ _

theorem map_loadFrame_frameRows (modules : Nat) (sample : Int) (frames : Sample) :
    (frameRows sample modules frames).map (loadFrame modules) =
      frames.map (Frame.within modules) := by
  unfold frameRows
  rw [List.map_map]
  have each : (loadFrame modules ∘ fun entry : Frame × Nat =>
      frameRow sample modules entry.1 entry.2) = Frame.within modules ∘ Prod.fst :=
    funext (fun entry => loadFrame_frameRow modules sample entry.1 entry.2)
  rw [each, ← List.map_map, List.zipIdx_map_fst]

theorem regroup_joinSamples (modules : Nat) (first : Int) (position : Nat)
    (samples : List Sample) :
    regroup modules (joinSamples modules first position samples) =
      samples.map (List.map (Frame.within modules)) := by
  induction samples generalizing first position with
  | nil => rfl
  | cons frames rest ih =>
    have behind : ∀ row ∈ joinSamples modules (first + 1) (position + 1) rest,
        row.sample ≠ first := by
      intro row member
      have later := (mem_joinSamples member).1
      omega
    rw [joinSamples, regroup_append modules (joinSample_ne_nil _ _ _)
      (fun row member => (mem_joinSample member).1) behind, flatMap_joinSample,
      map_loadFrame_frameRows, ih, List.map_cons]

end Samples

section Order

section Filters

variable {α : Type} {key : α → Int} {id : Int} {rows : List α}

theorem filter_own (own : ∀ row ∈ rows, key row = id) :
    rows.filter (fun row => key row == id) = rows := by
  rw [List.filter_eq_self]
  intro row member
  exact beq_iff_eq.2 (own row member)

theorem filter_others (others : ∀ row ∈ rows, key row ≠ id) :
    rows.filter (fun row => key row == id) = [] := by
  rw [List.filter_eq_nil_iff]
  intro row member same
  exact others row member (beq_iff_eq.1 same)

end Filters

theorem increasing_zipIdx {α : Type} (l : List α) : l.zipIdx.Pairwise (fun a b => a.2 < b.2) := by
  have positions : (l.zipIdx.map Prod.snd).Pairwise (· < ·) := by
    rw [List.zipIdx_map_snd]
    exact List.pairwise_lt_range'
  exact List.pairwise_map.1 positions

theorem ordered_frameRows (sample : Int) (modules : Nat) (frames : Sample) :
    (frameRows sample modules frames).Pairwise (fun a b => a.depth ≤ b.depth) := by
  unfold frameRows
  rw [List.pairwise_map]
  apply (increasing_zipIdx frames).imp
  intro a b less
  exact Int.ofNat_le.2 (Nat.le_of_lt less)

theorem ordered_linkRows (profile : Int) (ids : List Int) :
    (linkRows profile ids).Pairwise (fun a b => a.ordinal ≤ b.ordinal) := by
  unfold linkRows
  rw [List.pairwise_map]
  apply (increasing_zipIdx ids).imp
  intro a b less
  exact Int.ofNat_le.2 (Nat.le_of_lt less)

theorem mem_frameRows {sample : Int} {modules : Nat} {frames : Sample} {row : FrameRow}
    (member : row ∈ frameRows sample modules frames) : row.sample = sample := by
  obtain ⟨_, _, rfl⟩ := List.mem_map.1 member
  rfl

theorem mem_framesBehind {first : Int} {modules : Nat} {samples : List Sample} {row : FrameRow}
    (member : row ∈ framesBehind first modules samples) :
    first ≤ row.sample ∧ row.sample < first + samples.length := by
  induction samples generalizing first with
  | nil => cases member
  | cons frames rest ih =>
    rw [List.length_cons]
    rcases List.mem_append.1 member with here | later
    · have own := mem_frameRows here
      omega
    · have behind := ih later
      omega

theorem mem_sampleRows {first profile : Int} {position : Nat} {samples : List Sample}
    {row : SampleRow} (member : row ∈ sampleRows first profile position samples) :
    first ≤ row.id ∧ row.profile = profile ∧ (position : Int) ≤ row.position := by
  induction samples generalizing first position with
  | nil => cases member
  | cons frames rest ih =>
    rcases List.mem_cons.1 member with rfl | later
    · exact ⟨Int.le_refl _, rfl, Int.le_refl _⟩
    · obtain ⟨id, own, place⟩ := ih later
      exact ⟨by omega, own, by omega⟩

theorem ordered_sampleRows (first profile : Int) (position : Nat) (samples : List Sample) :
    (sampleRows first profile position samples).Pairwise (fun a b => a.position < b.position) := by
  induction samples generalizing first position with
  | nil => exact .nil
  | cons frames rest ih =>
    refine .cons ?_ (ih (first + 1) (position + 1))
    intro row member
    have behind := (mem_sampleRows member).2.2
    dsimp only
    omega

theorem Joined.le_of_position {a b : Joined} (less : a.position < b.position) :
    a.le b = true := by
  unfold Joined.le
  rw [decide_eq_true less, Bool.true_or]

theorem ordered_joinSample (id position : Int) {frames : List FrameRow}
    (ordered : frames.Pairwise (fun a b => a.depth ≤ b.depth)) :
    (joinSample id position frames).Pairwise (fun a b => a.le b = true) := by
  cases frames with
  | nil => exact List.pairwise_singleton _ _
  | cons frame rest =>
    rw [joinSample, List.pairwise_map]
    · apply ordered.imp
      intro a b less
      simp [Joined.le, Joined.depth, less]
    · exact List.cons_ne_nil _ _

theorem ordered_joinSamples (modules : Nat) (first : Int) (position : Nat)
    (samples : List Sample) :
    (joinSamples modules first position samples).Pairwise (fun a b => a.le b = true) := by
  induction samples generalizing first position with
  | nil => exact .nil
  | cons frames rest ih =>
    rw [joinSamples, List.pairwise_append]
    refine ⟨ordered_joinSample _ _ (ordered_frameRows _ _ _), ih (first + 1) (position + 1), ?_⟩
    intro a here b later
    apply Joined.le_of_position
    have own := (mem_joinSample here).2
    have behind := (mem_joinSamples later).2
    omega

end Order

section Written

variable {t : Tables}

theorem framesOf_written {id : Int} {modules : Nat} {frames : Sample}
    {earlier later : List FrameRow}
    (rows : t.frames = earlier ++ frameRows id modules frames ++ later)
    (before : ∀ row ∈ earlier, row.sample ≠ id) (behind : ∀ row ∈ later, row.sample ≠ id) :
    t.framesOf id = frameRows id modules frames := by
  have own : ∀ row ∈ frameRows id modules frames, row.sample = id := fun _ => mem_frameRows
  unfold framesOf
  rw [rows, List.filter_append, List.filter_append, filter_others before, filter_own own,
    filter_others behind, List.nil_append, List.append_nil]
  apply List.mergeSort_of_pairwise
  exact (ordered_frameRows id modules frames).imp decide_eq_true

-- The induction is on the samples; their frames move from the rows behind to the rows before.
theorem flatMap_joinSample_written {modules : Nat} {first profile : Int} {position : Nat}
    {samples : List Sample} {earlier : List FrameRow}
    (rows : t.frames = earlier ++ framesBehind first modules samples)
    (before : ∀ row ∈ earlier, row.sample < first) :
    (sampleRows first profile position samples).flatMap
      (fun row => joinSample row.id row.position (t.framesOf row.id)) =
      joinSamples modules first position samples := by
  induction samples generalizing first position earlier with
  | nil => rfl
  | cons frames rest ih =>
    rw [framesBehind, ← List.append_assoc] at rows
    have own : t.framesOf first = frameRows first modules frames := by
      apply framesOf_written rows
      · intro row member
        exact Int.ne_of_lt (before row member)
      · intro row member
        have behind := (mem_framesBehind member).1
        omega
    have before' : ∀ row ∈ earlier ++ frameRows first modules frames, row.sample < first + 1 := by
      intro row member
      rcases List.mem_append.1 member with old | new
      · have small := before row old
        omega
      · have same := mem_frameRows new
        omega
    rw [sampleRows, List.flatMap_cons, ih rows before', own]
    rfl

theorem joinedRows_written {profile first : Int} {modules : Nat} {samples : List Sample}
    {earlier : List SampleRow} {before : List FrameRow}
    (samplesAre : t.samples = earlier ++ sampleRows first profile 0 samples)
    (others : ∀ row ∈ earlier, row.profile ≠ profile)
    (framesAre : t.frames = before ++ framesBehind first modules samples)
    (older : ∀ row ∈ before, row.sample < first) :
    t.joinedRows profile = joinSamples modules first 0 samples := by
  have own : ∀ row ∈ sampleRows first profile 0 samples, row.profile = profile :=
    fun _ member => (mem_sampleRows member).2.1
  have ordered : (sampleRows first profile 0 samples).mergeSort (fun a b =>
      a.position < b.position || (a.position == b.position && a.id ≤ b.id)) =
      sampleRows first profile 0 samples := by
    apply List.mergeSort_of_pairwise
    apply (ordered_sampleRows first profile 0 samples).imp
    intro a b less
    rw [decide_eq_true less, Bool.true_or]
  have joined : (sampleRows first profile 0 samples).flatMap
      (fun row => joinSample row.id row.position (t.framesOf row.id)) =
      joinSamples modules first 0 samples := flatMap_joinSample_written framesAre older
  unfold joinedRows
  rw [samplesAre, List.filter_append, filter_others others, filter_own own, List.nil_append]
  dsimp only
  rw [ordered]
  refine Eq.trans ?_ (List.mergeSort_of_pairwise (ordered_joinSamples modules first 0 samples))
  rw [← joined]
  rfl

def ModuleRow.read (row : ModuleRow) : Module := ⟨word row.base, row.buildId, .ofString row.path⟩

theorem same_recorded {row : ModuleRow} {m : Module} (h : row.Describes m) :
    row.read.same m.recorded = true := by
  unfold ModuleRow.read Module.same Module.recorded
  simp [h.base, h.buildId, word_signed, h.path]

theorem loadModules_linked {profile : Int} {ids : List Int} {earlier : List LinkRow}
    (linksAre : t.links = earlier ++ linkRows profile ids)
    (others : ∀ link ∈ earlier, link.profile ≠ profile) :
    t.loadModules profile =
      (ids.filterMap (fun id => t.modules.find? (fun row => row.id == id))).map
        ModuleRow.read := by
  have own : ∀ link ∈ linkRows profile ids, link.profile = profile := by
    intro link member
    obtain ⟨_, _, rfl⟩ := List.mem_map.1 member
    rfl
  have ordered : (linkRows profile ids).mergeSort (fun a b => a.ordinal ≤ b.ordinal) =
      linkRows profile ids := by
    apply List.mergeSort_of_pairwise
    exact (ordered_linkRows profile ids).imp decide_eq_true
  have found : (linkRows profile ids).filterMap
      (fun link => t.modules.find? (fun row => row.id == link.moduleId)) =
      ids.filterMap (fun id => t.modules.find? (fun row => row.id == id)) := by
    have moduleIds : (linkRows profile ids).map LinkRow.moduleId = ids := by
      unfold linkRows
      rw [List.map_map]
      exact List.zipIdx_map_fst 0 ids
    calc
      _ = ((linkRows profile ids).map LinkRow.moduleId).filterMap
          (fun id => t.modules.find? (fun row => row.id == id)) := (List.filterMap_map ..).symm
      _ = _ := by rw [moduleIds]
  unfold loadModules
  rw [linksAre, List.filter_append, filter_others others, filter_own own, List.nil_append, ordered,
    found]
  rfl

theorem loadModules_written {profile : Int} {ids : List Int} {earlier : List LinkRow}
    {modules : List Module} (linksAre : t.links = earlier ++ linkRows profile ids)
    (others : ∀ link ∈ earlier, link.profile ≠ profile) (named : List.Forall₂ t.Names ids modules) :
    List.Forall₂ (fun loaded m => loaded.same m.recorded = true) (t.loadModules profile)
      modules := by
  rw [loadModules_linked linksAre others]
  clear linksAre
  induction named with
  | nil => exact .nil
  | cons first rest ih =>
    obtain ⟨row, place, describes⟩ := first
    simp only [List.filterMap_cons, place, List.map_cons]
    exact .cons (same_recorded describes) ih

end Written

end BurstProfiler.Recording
