import BurstProfiler.Proofs.Recording.HotLeaves
import BurstProfiler.Proofs.Rounding
import Mathlib.Data.List.Perm.Subperm

/-! Where the query of the hot frames fails. Addresses and bases are stored as signed numbers; a
difference of two of them that leaves the signed range is a real number, and a real number is not
read as an offset. So the query fails where one of the groups that it reads has one. Such a number
is -2^63 or none of the signed range; in the first case a whole leaf may be of its group, and the
group is read if a whole leaf is the first of it. -/

set_option autoImplicit false

namespace BurstProfiler.Recording

open Number

/-- Of the rows with one key the first is whole. -/
def FirstsWhole (rows : List LeafRow) : Prop := ∀ row ∈ rows, startsReal rows row.key = false

instance (rows : List LeafRow) : Decidable (FirstsWhole rows) :=
  inferInstanceAs (Decidable (∀ row ∈ rows, startsReal rows row.key = false))

section Offsets

theorem fitsSigned_signed (w : UInt64) : fitsSigned (signed w) = true := by
  have small := w.toNat_lt
  unfold fitsSigned minSigned maxSigned signed
  rw [Bool.and_eq_true, decide_eq_true_eq, decide_eq_true_eq]
  split <;> omega

-- Both numbers have one sign where the difference is beyond the range, so they are added.
theorem value_of_isReal {address base : Int} (stored : fitsSigned address = true)
    (stored' : fitsSigned base = true) (real : (offsetFrom address base).isReal = true) :
    (offsetFrom address base).value ≤ minSigned ∨ maxSigned < (offsetFrom address base).value := by
  have overflows : ¬ fitsSigned (address - base) = true := by
    rw [← isReal_offsetFrom, real]
    nofun
  unfold offsetFrom
  rw [if_neg overflows]
  unfold fitsSigned at stored stored' overflows
  simp only [Bool.and_eq_true, decide_eq_true_eq] at stored stored' overflows
  unfold minSigned maxSigned at *
  simp only [Offset.value]
  by_cases above : 0 ≤ address
  · obtain ⟨a, rfl⟩ := Int.eq_ofNat_of_zero_le above
    obtain ⟨b, rfl⟩ : ∃ b : Nat, base = -b := ⟨base.natAbs, by omega⟩
    have far := @end_le_roundSignificant_add a b (by omega) (by omega) (by omega)
    rw [roundSigned_neg, roundSigned_natCast, roundSigned_natCast, Int.sub_neg,
      ← Int.natCast_add, roundSigned_natCast]
    exact .inr (by omega)
  · obtain ⟨a, rfl⟩ : ∃ a : Nat, address = -a := ⟨address.natAbs, by omega⟩
    obtain ⟨b, rfl⟩ := Int.eq_ofNat_of_zero_le (show 0 ≤ base by omega)
    have far := @end_le_roundSignificant_add a b (by omega) (by omega) (by omega)
    have sum : -(roundSignificant a : Int) - roundSignificant b =
        -((roundSignificant a + roundSignificant b : Nat) : Int) := by omega
    rw [roundSigned_neg, roundSigned_natCast, roundSigned_natCast, sum, roundSigned_neg,
      roundSigned_natCast]
    exact .inl (by omega)

variable {p : Profile} {row : LeafRow} {stored : List Profile}

theorem offset_of_mem_leafRows (member : row ∈ leafRows p) :
    (∃ w, row.offset = .whole (signed w)) ∨
      ∃ a b, row.offset = offsetFrom (signed a) (signed b) := by
  obtain ⟨sample, -, f, -, rfl⟩ := mem_leafRows.1 member
  unfold LeafRow.ofFrame
  cases f.moduleIndex.bind (fun i => p.modules[i]?) with
  | none => exact .inl ⟨_, rfl⟩
  | some m => exact .inr ⟨_, _, rfl⟩

theorem fitsSigned_of_whole (member : row ∈ leafRows p) (whole : row.offset.isReal = false) :
    fitsSigned row.offset.value = true := by
  rcases offset_of_mem_leafRows member with ⟨w, offset⟩ | ⟨a, b, offset⟩
  · rw [offset]
    exact fitsSigned_signed w
  · rw [offset, isReal_offsetFrom] at whole
    rw [offset, offsetFrom, if_pos whole]
    exact whole

theorem beyond_of_real (member : row ∈ leafRows p) (real : row.offset.isReal = true) :
    row.offset.value ≤ minSigned ∨ maxSigned < row.offset.value := by
  rcases offset_of_mem_leafRows member with ⟨w, offset⟩ | ⟨a, b, offset⟩
  · rw [offset] at real
    cases real
  · rw [offset] at real ⊢
    exact value_of_isReal (fitsSigned_signed a) (fitsSigned_signed b) real

-- A real number is that of a whole row only at the lower end of the range.
theorem value_of_shared {first : LeafRow} (member : row ∈ stored.flatMap leafRows)
    (real : row.offset.isReal = true) (member' : first ∈ stored.flatMap leafRows)
    (whole : first.offset.isReal = false) (same : first.key = row.key) :
    row.offset.value = minSigned ∧ first.offset = .whole minSigned := by
  obtain ⟨p, -, own⟩ := List.mem_flatMap.1 member
  obtain ⟨p', -, own'⟩ := List.mem_flatMap.1 member'
  have beyond := beyond_of_real own real
  have inside := fitsSigned_of_whole own' whole
  have value : first.offset.value = row.offset.value := congrArg HotKey.offset same
  unfold fitsSigned at inside
  rw [Bool.and_eq_true, decide_eq_true_eq, decide_eq_true_eq] at inside
  have least : row.offset.value = minSigned := by omega
  refine ⟨least, ?_⟩
  cases offset : first.offset with
  | whole n =>
    rw [offset] at value
    exact congrArg Offset.whole (value.trans least)
  | real n =>
    rw [offset] at whole
    cases whole

-- A whole row is that of a leaf, even where other rows of the profile are not.
theorem exists_leaf_of_whole (member : row ∈ leafRows p) (whole : row.offset.isReal = false) :
    ∃ leaf ∈ leaves p, leaf.key = row.key := by
  obtain ⟨sample, there, f, innermost, rfl⟩ := mem_leafRows.1 member
  refine ⟨Leaf.ofFrame p.modules f, ?_, key_ofFrame ((isReal_ofFrame p.modules f).1 whole)⟩
  unfold leaves
  rw [List.mem_filterMap]
  exact ⟨sample, there, Option.map_eq_some_iff.2 ⟨f, innermost, rfl⟩⟩

theorem exists_whole_of_startsReal {rows : List LeafRow} (member : row ∈ rows)
    (starts : startsReal rows row.key = false) :
    ∃ first ∈ rows, first.key = row.key ∧ first.offset.isReal = false := by
  unfold startsReal at starts
  cases found : firstRow? rows row.key with
  | none =>
    have own : row ∈ rows.filter (fun other => other.key == row.key) := by simpa using member
    unfold firstRow? at found
    split at found
    · rename_i empty
      rw [empty] at own
      cases own
    · cases found
  | some first =>
    rw [found] at starts
    obtain ⟨there, key⟩ := mem_of_firstRow? found
    exact ⟨first, there, key, starts⟩

theorem length_leafRows (p : Profile) : (leafRows p).length = (leaves p).length := by
  unfold leafRows leaves
  simp only [List.length_filterMap_eq_countP, Option.isSome_map]

theorem length_flatMap_leafRows (profiles : List Profile) :
    (profiles.flatMap leafRows).length = (profiles.flatMap leaves).length := by
  simp only [List.length_flatMap, length_leafRows]

end Offsets

section Groups

variable {groups : List HotGroup}

theorem mapM_frame_of_leaves {leaves : List Leaf}
    (each : ∀ g ∈ groups, g.isReal = false ∧ ∃ leaf ∈ leaves, leaf.key = g.key) :
    ∃ frames, groups.mapM HotGroup.frame = .ok frames ∧ ∀ f ∈ frames, f.leaf ∈ leaves := by
  induction groups with
  | nil => exact ⟨[], rfl, fun _ member => absurd member List.not_mem_nil⟩
  | cons g rest ih =>
    rw [List.forall_mem_cons] at each
    obtain ⟨⟨whole, leaf, there, key⟩, behind⟩ := each
    obtain ⟨frames, read, known⟩ := ih behind
    have group : g = HotFrame.group ⟨leaf.module, leaf.offset, g.samples⟩ := by
      cases g
      cases key
      cases whole
      rfl
    refine ⟨⟨leaf.module, leaf.offset, g.samples⟩ :: frames, ?_, ?_⟩
    · rw [List.mapM_cons, read, group, HotFrame.frame_group]
      rfl
    · rw [List.forall_mem_cons]
      exact ⟨there, known⟩

-- The rows before a real number are read, or fail with the same fault.
theorem mapM_frame_of_real {g : HotGroup} (member : g ∈ groups) (real : g.isReal = true) :
    groups.mapM HotGroup.frame = .error (.realColumn 1 "offset") := by
  induction groups with
  | nil => exact absurd member List.not_mem_nil
  | cons first rest ih =>
    rw [List.mapM_cons, HotGroup.frame]
    cases own : first.isReal with
    | true => rfl
    | false =>
      rcases List.mem_cons.1 member with rfl | behind
      · rw [own] at real
        cases real
      · rw [ih behind]
        rfl

theorem map_key_ranking_perm (t : Tables) :
    (t.ranking.map HotGroup.key).Perm t.hotKeys.eraseDups := by
  have keys : t.hotGroups.map HotGroup.key = t.hotKeys.eraseDups := by
    unfold Tables.hotGroups
    rw [List.map_map]
    exact List.map_id _
  rw [← keys]
  exact (List.mergeSort_perm _ _).map HotGroup.key

theorem mem_ranking {t : Tables} {g : HotGroup} : g ∈ t.ranking ↔ ∃ row ∈ t.leafRows,
    ⟨row.key, startsReal t.leafRows row.key, t.hotKeys.count row.key⟩ = g := by
  unfold Tables.ranking Tables.hotGroups Tables.hotKeys
  simp

theorem length_ranking_le (t : Tables) : t.ranking.length ≤ t.hotKeys.length := by
  have distinct : t.hotKeys.eraseDups.Subperm t.hotKeys :=
    (nodup_eraseDups t.hotKeys).subperm fun _ member => List.mem_eraseDups.1 member
  have groups := (map_key_ranking_perm t).length_eq
  rw [List.length_map] at groups
  exact groups.trans_le distinct.length_le

theorem mem_of_mem_firstGroups {limit : Nat} {g : HotGroup}
    (member : g ∈ firstGroups limit groups) : g ∈ groups := by
  unfold firstGroups at member
  split at member
  · exact List.mem_of_mem_take member
  · exact member

theorem firstGroups_of_length_le {limit : Nat} (reached : groups.length ≤ limit) :
    firstGroups limit groups = groups := by
  unfold firstGroups
  rw [List.take_of_length_le reached, ite_self]

end Groups

section Query

variable {t : Tables} {stored : List Profile} {limit : Nat} (reaches : Nat → Bool)

theorem hotFrames_of_real {g : HotGroup} (member : g ∈ firstGroups limit t.ranking)
    (real : g.isReal = true) : t.hotFrames limit reaches = .error (.realColumn 1 "offset") := by
  rw [hotFrames_eq_map, mapM_frame_of_real member real]
  rfl

theorem hotFrames_of_whole (listed : t.leafRows = stored.flatMap leafRows)
    (whole : ∀ g ∈ firstGroups limit t.ranking, g.isReal = false) :
    ∃ frames, t.hotFrames limit reaches = .ok frames ∧
      ∀ f ∈ frames, f.leaf ∈ stored.flatMap leaves := by
  have each : ∀ g ∈ firstGroups limit t.ranking,
      g.isReal = false ∧ ∃ leaf ∈ stored.flatMap leaves, leaf.key = g.key := by
    intro g member
    obtain ⟨row, there, rfl⟩ := mem_ranking.1 (mem_of_mem_firstGroups member)
    obtain ⟨first, met, key, own⟩ :=
      exists_whole_of_startsReal there (whole _ member)
    rw [listed, List.mem_flatMap] at met
    obtain ⟨p, recorded, inside⟩ := met
    obtain ⟨leaf, known, same⟩ := exists_leaf_of_whole inside own
    exact ⟨whole _ member, leaf, List.mem_flatMap.2 ⟨p, recorded, known⟩, same.trans key⟩
  obtain ⟨frames, read, known⟩ := mapM_frame_of_leaves each
  refine ⟨frames.filter (fun f => reaches f.samples), ?_,
    fun f member => known f (List.mem_of_mem_filter member)⟩
  rw [hotFrames_eq_map, read]
  rfl

theorem exists_hotFrames_iff (listed : t.leafRows = stored.flatMap leafRows) :
    (∃ frames, t.hotFrames limit reaches = .ok frames) ↔
      ∀ g ∈ firstGroups limit t.ranking, g.isReal = false := by
  constructor
  · rintro ⟨frames, answered⟩ g member
    rw [← Bool.not_eq_true]
    intro real
    rw [hotFrames_of_real reaches member real] at answered
    cases answered
  · intro whole
    obtain ⟨frames, answered, -⟩ := hotFrames_of_whole reaches listed whole
    exact ⟨frames, answered⟩

theorem hotFrames_error {reaches : Nat → Bool} (listed : t.leafRows = stored.flatMap leafRows)
    {fault : DatabaseFault} (failed : t.hotFrames limit reaches = .error fault) :
    fault = .realColumn 1 "offset" := by
  by_cases whole : ∀ g ∈ firstGroups limit t.ranking, g.isReal = false
  · obtain ⟨frames, answered⟩ := (exists_hotFrames_iff reaches listed).2 whole
    cases failed.symm.trans answered
  · push Not at whole
    obtain ⟨g, member, real⟩ := whole
    cases failed.symm.trans (hotFrames_of_real reaches member (Bool.not_eq_false _ ▸ real))
    rfl

theorem whole_ranking_iff (t : Tables) :
    (∀ g ∈ t.ranking, g.isReal = false) ↔ FirstsWhole t.leafRows := by
  simp only [mem_ranking, FirstsWhole, forall_exists_index, and_imp, forall_apply_eq_imp_iff₂]

end Query

/-- **Where the query of the hot frames answers.** Over whatever was recorded, it answers for every
limit and threshold just if of the leaves with one path and one value of the offset the first that
it meets is whole; and so it does for one limit that is as large as the number of samples. This is
so where no signed difference of a leaf's address and its module's base overflows; where it is so
although one does, the value of this one is -2^63, which is the whole offset of another leaf in a
module of that path. A smaller limit is answered just if the groups within it are whole. Every entry
of an answer is a leaf of a profile as it is stored, with the address less the base as a word; and
every failure is that of a real number where an offset is read. -/
theorem hotFrames_answer_iff_firsts_whole (thread : ThreadId) (params : Params) (origin : Origin)
    (attempts : List Attempt) :
    let s := (Storage.create thread params origin).attemptAll attempts
    let profiles := (Storage.create thread params origin).succeeded attempts
    let stored := recordings [] profiles
    let rows := stored.flatMap leafRows
    s.tables.loadProfiles = stored ∧
    ((∀ limit threshold, ∃ frames, s.tables.hotFramesFrom limit threshold = .ok frames) ↔
      FirstsWhole rows) ∧
    (∀ limit, (profiles.flatMap Profile.samples).length ≤ limit → ∀ threshold,
      ((∃ frames, s.tables.hotFramesFrom limit threshold = .ok frames) ↔ FirstsWhole rows)) ∧
    ((∀ p ∈ profiles, OffsetsFit p) ↔ ∀ row ∈ rows, row.offset.isReal = false) ∧
    ((∀ p ∈ profiles, OffsetsFit p) → FirstsWhole rows) ∧
    (FirstsWhole rows → ∀ row ∈ rows, row.offset.isReal = true →
      row.offset.value = minSigned ∧
        ∃ first ∈ rows, first.key = row.key ∧ first.offset = .whole minSigned) ∧
    ∀ limit threshold,
      ((∃ frames, s.tables.hotFramesFrom limit threshold = .ok frames) ↔
        ∀ g ∈ firstGroups limit s.tables.ranking, g.isReal = false) ∧
      (∀ frames, s.tables.hotFramesFrom limit threshold = .ok frames →
        ∀ f ∈ frames, f.leaf ∈ stored.flatMap leaves) ∧
      (∀ fault, s.tables.hotFramesFrom limit threshold = .error fault →
        fault = .realColumn 1 "offset") := by
  intro s profiles stored rows
  have shows : s.Shows profiles :=
    Storage.attemptAll_induction Storage.Shows (fun held recorded => held.record recorded)
      (Storage.shows_create thread params origin) attempts
  have whole : (∀ g ∈ s.tables.ranking, g.isReal = false) ↔ FirstsWhole rows := by
    rw [whole_ranking_iff, shows.listed]
  have few : s.tables.ranking.length ≤ (profiles.flatMap Profile.samples).length := by
    have keys := length_ranking_le s.tables
    rw [Tables.hotKeys, List.length_map, shows.listed, length_flatMap_leafRows,
      length_leaves_recordings] at keys
    exact keys.trans List.countP_le_length
  have each : ∀ limit threshold, (∃ frames, s.tables.hotFramesFrom limit threshold = .ok frames) ↔
      ∀ g ∈ firstGroups limit s.tables.ranking, g.isReal = false :=
    fun _ _ => exists_hotFrames_iff _ shows.listed
  have fits : (∀ p ∈ profiles, OffsetsFit p) ↔ ∀ row ∈ rows, row.offset.isReal = false := by
    rw [← offsetsFit_recordings]
    simp only [offsetsFit_iff, rows, List.mem_flatMap, forall_exists_index, and_imp]
    exact ⟨fun each row p stored => each p stored row, fun each p stored row => each row p stored⟩
  refine ⟨shows.loaded, ⟨fun answers => ?_, fun firsts limit threshold => ?_⟩,
    fun limit reached threshold => ?_, fits, fun all row _ => ?_, fun firsts row member real => ?_,
    fun limit threshold => ⟨each limit threshold, ?_, ?_⟩⟩
  · have all := (each s.tables.ranking.length ⟨0⟩).1 (answers _ _)
    rw [firstGroups_of_length_le (Nat.le_refl _)] at all
    exact whole.1 all
  · exact (each limit threshold).2 fun g member => whole.2 firsts g (mem_of_mem_firstGroups member)
  · rw [each, firstGroups_of_length_le (few.trans reached)]
    exact whole
  · exact startsReal_of_whole (fits.1 all) row.key
  · obtain ⟨first, there, same, own⟩ := exists_whole_of_startsReal member (firsts row member)
    obtain ⟨least, offset⟩ := value_of_shared member real there own same
    exact ⟨least, first, there, same, offset⟩
  · intro frames answered
    obtain ⟨known, same, member⟩ :=
      hotFrames_of_whole _ shows.listed ((each limit threshold).1 ⟨frames, answered⟩)
    cases answered.symm.trans same
    exact member
  · exact fun fault failed => hotFrames_error shows.listed failed

/-- A leaf below a base in the upper half: as signed numbers they differ by 2^63 + 4096. -/
def farProfile : Profile :=
  { briefProfile 9223372036854775808 97 with samples := [[⟨4096, some 0⟩]] }

def farAttempts : List Attempt :=
  [⟨.none, { briefProfile 4096 97 with samples := [[⟨4100, some 0⟩]] }⟩, ⟨.none, farProfile⟩]

theorem hotFrames_answer_iff_firsts_whole_far :
    let s := (Storage.create ⟨7⟩ .standard ⟨"12", "noon"⟩).attemptAll farAttempts
    let profiles := (Storage.create ⟨7⟩ .standard ⟨"12", "noon"⟩).succeeded farAttempts
    (profiles.flatMap Profile.samples).length ≤ 2 ∧
      ¬ FirstsWhole ((recordings [] profiles).flatMap leafRows) ∧
      ∀ threshold, ¬ ∃ frames, s.tables.hotFramesFrom 2 threshold = .ok frames := by
  intro s profiles
  have few : (profiles.flatMap Profile.samples).length ≤ 2 := by decide +kernel
  have real : ¬ FirstsWhole ((recordings [] profiles).flatMap leafRows) := by decide +kernel
  obtain ⟨-, -, reached, -⟩ :=
    hotFrames_answer_iff_firsts_whole ⟨7⟩ .standard ⟨"12", "noon"⟩ farAttempts
  exact ⟨few, real, fun threshold answers => real ((reached 2 few threshold).1 answers)⟩

/-- One file at zero and at one, with a leaf at 2^63 in either: the offset of the first is -2^63,
and that of the second is rounded to it. -/
def sharedEnd (first second : Nat) : Profile :=
  { briefProfile 0 97 with
    modules := [⟨0, "feed", ⟨[47, 97]⟩⟩, ⟨1, "feed", ⟨[47, 97]⟩⟩]
    samples := [[⟨9223372036854775808, some first⟩], [⟨9223372036854775808, some second⟩]] }

-- The leaf of the module with the smaller index is met first, in whatever order they are recorded.
example : ((Storage.create ⟨7⟩ .standard ⟨"12", "noon"⟩).attemptAll
    [⟨.none, sharedEnd 1 0⟩]).tables.hotFramesFrom 9 ⟨0⟩ =
      .ok [⟨some "/a", 9223372036854775808, 2⟩] := by
  decide +kernel

-- The profile is recorded, and then its leaf cannot be asked for.
theorem hotFrames_overflow :
    (Storage.create ⟨7⟩ .standard ⟨"12", "noon"⟩).succeeded [⟨.none, farProfile⟩] = [farProfile] ∧
      ((Storage.create ⟨7⟩ .standard ⟨"12", "noon"⟩).attemptAll
        [⟨.none, farProfile⟩]).tables.hotFramesFrom 9 ⟨0⟩ =
        .error (.realColumn 1 "offset") :=
  ⟨by decide +kernel, by decide +kernel⟩

end BurstProfiler.Recording
