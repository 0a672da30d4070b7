import BurstProfiler.Proofs.TextBytes
import BurstProfiler.Recording.HotFrames
import Mathlib.Algebra.BigOperators.Group.List.Lemmas
import Mathlib.Algebra.Ring.Nat
import Mathlib.Data.List.Count

/-! The ranking of leaves. Where no offset is a real number, groups are told apart by the path and
the offset as a word, so they can be counted and ordered as such: the table of groups is the table
of leaves, each with how often it occurs. -/

set_option autoImplicit false

namespace BurstProfiler.Recording

/-- What the innermost frame of a sample shows: the path of its module and the offset in it, or
no path and the address. -/
structure Leaf where
  module : Option String
  offset : UInt64
  deriving DecidableEq, Repr

def Leaf.key (l : Leaf) : HotKey := ⟨l.module, signed l.offset⟩

theorem Leaf.key_injective : Function.Injective Leaf.key := by
  rintro ⟨module, offset⟩ ⟨module', offset'⟩ same
  unfold key at same
  simp only [HotKey.mk.injEq] at same
  obtain ⟨rfl, offsets⟩ := same
  rw [signed_injective offsets]

namespace HotFrame

def leaf (f : HotFrame) : Leaf := ⟨f.module, f.offset⟩

def group (f : HotFrame) : HotGroup := ⟨f.leaf.key, false, f.samples⟩

theorem frame_group (f : HotFrame) : f.group.frame = .ok f := by
  simp [group, HotGroup.frame, leaf, Leaf.key, word_signed]

end HotFrame

/-- No path comes first, and paths come in the order of their bytes. -/
def PathPrecedes : Option String → Option String → Prop
  | none, some _ => True
  | some a, some b => Text.encodeUtf8 a.toList < Text.encodeUtf8 b.toList
  | _, none => False

inductive HotFrame.Precedes (a b : HotFrame) : Prop where
  | samples (more : b.samples < a.samples)
  | path (samples : a.samples = b.samples) (before : PathPrecedes a.module b.module)
  | offset (samples : a.samples = b.samples) (path : a.module = b.module)
      (less : signed a.offset < signed b.offset)

structure Ranks (leaves : List Leaf) (ranked : List HotFrame) : Prop where
  distinct : (ranked.map HotFrame.leaf).Nodup
  complete : ∀ leaf, leaf ∈ ranked.map HotFrame.leaf ↔ leaf ∈ leaves
  counts : ∀ frame ∈ ranked, frame.samples = leaves.count frame.leaf
  /-- Every leaf is counted, and counted once. -/
  covers : (ranked.map HotFrame.samples).sum = leaves.length
  ordered : ranked.Pairwise HotFrame.Precedes

theorem PathPrecedes.asymm {a b : Option String} (h : PathPrecedes a b) (k : PathPrecedes b a) :
    False := by
  cases a <;> cases b
  · exact h
  · exact k
  · exact h
  · exact List.lt_asymm h k

namespace HotFrame

def order (a b : HotFrame) : Ordering := a.group.compare b.group

theorem compareOption_eq_compare (a b : Option String) : compareOption a b = compare a b := by
  cases a <;> cases b <;> rfl

theorem order_eq : order = compareLex (fun a b => compareOn samples b a)
    (compareLex (compareOn module) (compareOn (fun f => signed f.offset))) := by
  funext a b
  unfold order HotGroup.compare compareLex compareOn
  rw [compareOption_eq_compare]
  rfl

instance : Std.TransCmp order := by
  have samples : Std.TransCmp (fun a b : HotFrame => compareOn HotFrame.samples b a) :=
    Std.TransCmp.opposite
  rw [order_eq]
  infer_instance

theorem pathPrecedes_of_compare {a b : Option String} (less : compare a b = .lt) :
    PathPrecedes a b := by
  cases a with
  | none =>
    cases b with
    | none => cases less
    | some b => trivial
  | some a =>
    cases b with
    | none => cases less
    | some b =>
      have texts : a < b := compareOfLessAndEq_eq_lt.1 less
      exact Text.encodeUtf8_lt texts

theorem precedes_of_order {a b : HotFrame} (less : order a b = .lt) : a.Precedes b := by
  rw [order_eq] at less
  rcases Ordering.then_eq_lt.1 less with more | ⟨samples, less⟩
  · exact .samples (Nat.compare_eq_lt.1 more)
  · have samples : a.samples = b.samples := (Std.compare_eq_iff_eq.1 samples).symm
    rcases Ordering.then_eq_lt.1 less with before | ⟨path, less⟩
    · exact .path samples (pathPrecedes_of_compare before)
    · exact .offset samples (Std.compare_eq_iff_eq.1 path) (Int.compare_eq_lt.1 less)

theorem leaf_of_order {a b : HotFrame} (same : order a b = .eq) : a.leaf = b.leaf := by
  rw [order_eq] at same
  obtain ⟨-, rest⟩ := Ordering.then_eq_eq.1 same
  obtain ⟨path, offset⟩ := Ordering.then_eq_eq.1 rest
  have offsets := signed_injective (Std.compare_eq_iff_eq.1 offset)
  rw [leaf, leaf, Std.compare_eq_iff_eq.1 path, offsets]

theorem Precedes.asymm {a b : HotFrame} (h : a.Precedes b) (k : b.Precedes a) : False := by
  have irreflexive : ∀ {path : Option String}, ¬ PathPrecedes path path :=
    fun before => before.asymm before
  cases h with
  | samples more => cases k <;> omega
  | path same before =>
    cases k with
    | samples more => omega
    | path _ behind => exact before.asymm behind
    | offset _ path _ => exact irreflexive (path ▸ before)
  | offset same path less =>
    cases k with
    | samples more => omega
    | path _ behind => exact irreflexive (path ▸ behind)
    | offset _ _ more => omega

end HotFrame

theorem Ranks.mem {leaves : List Leaf} {a b : List HotFrame} (h : Ranks leaves a)
    (k : Ranks leaves b) {frame : HotFrame} (member : frame ∈ a) : frame ∈ b := by
  have leaf := (k.complete frame.leaf).2 ((h.complete frame.leaf).1 (List.mem_map_of_mem member))
  obtain ⟨other, there, same⟩ := List.mem_map.1 leaf
  have counts : other.samples = frame.samples := by
    rw [k.counts other there, h.counts frame member, same]
  have equal : other = frame := by
    cases other
    cases frame
    cases same
    cases counts
    rfl
  exact equal ▸ there

theorem Ranks.eq {leaves : List Leaf} {a b : List HotFrame} (h : Ranks leaves a)
    (k : Ranks leaves b) : a = b := by
  have same : a.Perm b := by
    rw [List.perm_ext_iff_of_nodup h.distinct.of_map k.distinct.of_map]
    exact fun frame => ⟨h.mem k, k.mem h⟩
  exact same.eq_of_pairwise (fun _ _ _ _ before behind => (before.asymm behind).elim)
    h.ordered k.ordered

section Duplicates

variable {α β : Type} [DecidableEq α] [DecidableEq β]

-- Removing duplicates goes on with the elements that differ from the first.
theorem eraseDups_induction {motive : List α → Prop} (nil : motive [])
    (cons : ∀ a rest, motive (rest.filter (fun b => !b == a)) → motive (a :: rest))
    (l : List α) : motive l := by
  induction h : l.length using Nat.strong_induction_on generalizing l with
  | _ n ih =>
    cases l with
    | nil => exact nil
    | cons a rest =>
      have kept := List.length_filter_le (fun b => !b == a) rest
      rw [List.length_cons] at h
      exact cons a rest (ih _ (by omega) _ rfl)

theorem nodup_eraseDups (l : List α) : l.eraseDups.Nodup := by
  induction l using eraseDups_induction with
  | nil => exact .nil
  | cons a rest ih =>
    rw [List.eraseDups_cons, List.nodup_cons, List.mem_eraseDups, List.mem_filter]
    refine ⟨?_, ih⟩
    rintro ⟨-, differs⟩
    rw [beq_self_eq_true] at differs
    cases differs

theorem eraseDups_map {f : α → β} (injective : Function.Injective f) (l : List α) :
    (l.map f).eraseDups = l.eraseDups.map f := by
  induction l using eraseDups_induction with
  | nil => rfl
  | cons a rest ih =>
    have same : (fun b => !f b == f a) = fun b => !b == a := by
      funext b
      rw [Bool.not_inj_iff, Bool.eq_iff_iff, beq_iff_eq, beq_iff_eq]
      exact injective.eq_iff
    rw [List.map_cons, List.eraseDups_cons, List.eraseDups_cons, List.map_cons, List.filter_map,
      Function.comp_def, same, ih]

theorem sum_count_eraseDups (l : List α) : (l.eraseDups.map l.count).sum = l.length := by
  have same : l.eraseDups.Perm l.dedup := by
    rw [List.perm_ext_iff_of_nodup (nodup_eraseDups l) (List.nodup_dedup l)]
    intro a
    rw [List.mem_eraseDups, List.mem_dedup]
  rw [(same.map l.count).sum_eq]
  exact List.sum_map_count_dedup_eq_length l

end Duplicates

def tally (leaves : List Leaf) : List HotFrame :=
  leaves.eraseDups.map (fun l => ⟨l.module, l.offset, leaves.count l⟩)

def rankedLeaves (leaves : List Leaf) : List HotFrame :=
  (tally leaves).mergeSort (fun a b => (HotFrame.order a b).isLE)

theorem map_leaf_tally (leaves : List Leaf) :
    (tally leaves).map HotFrame.leaf = leaves.eraseDups := by
  rw [tally, List.map_map]
  exact List.map_id _

theorem map_samples_tally (leaves : List Leaf) :
    (tally leaves).map HotFrame.samples = leaves.eraseDups.map leaves.count := by
  rw [tally, List.map_map]
  rfl

theorem counts_tally {leaves : List Leaf} {frame : HotFrame} (member : frame ∈ tally leaves) :
    frame.samples = leaves.count frame.leaf := by
  obtain ⟨leaf, -, rfl⟩ := List.mem_map.1 member
  rfl

-- Sorted, and no two leaves alike: so each frame comes strictly before those behind it.
theorem ranks_rankedLeaves (leaves : List Leaf) : Ranks leaves (rankedLeaves leaves) := by
  have same : (rankedLeaves leaves).Perm (tally leaves) := List.mergeSort_perm _ _
  have distinct : ((rankedLeaves leaves).map HotFrame.leaf).Nodup := by
    rw [(same.map HotFrame.leaf).nodup_iff, map_leaf_tally]
    exact nodup_eraseDups leaves
  have sorted : (rankedLeaves leaves).Pairwise (fun a b => (HotFrame.order a b).isLE = true) := by
    apply List.pairwise_mergeSort
    · intro a b c
      exact Std.TransCmp.isLE_trans
    · intro a b
      rw [← @Std.OrientedCmp.isGE_eq_isLE _ HotFrame.order _ a b]
      cases HotFrame.order a b <;> rfl
  refine ⟨distinct, ?_, ?_, ?_, ?_⟩
  · intro leaf
    rw [(same.map HotFrame.leaf).mem_iff, map_leaf_tally, List.mem_eraseDups]
  · exact fun frame member => counts_tally (same.mem_iff.1 member)
  · rw [(same.map HotFrame.samples).sum_eq, map_samples_tally]
    exact sum_count_eraseDups leaves
  · refine (sorted.and (List.pairwise_map.1 distinct)).imp ?_
    rintro a b ⟨least, other⟩
    rcases Ordering.isLE_iff_eq_lt_or_eq_eq.1 least with less | equal
    · exact HotFrame.precedes_of_order less
    · exact absurd (HotFrame.leaf_of_order equal) other

def firstFrames (limit : Nat) (frames : List HotFrame) : List HotFrame :=
  if limit ≤ 9_223_372_036_854_775_807 then frames.take limit else frames

section Query

theorem foldl_earlier_mem (row : LeafRow) (rest : List LeafRow) :
    rest.foldl LeafRow.earlier row ∈ row :: rest := by
  induction rest generalizing row with
  | nil => exact List.mem_singleton_self row
  | cons next rest ih =>
    rw [List.foldl_cons]
    rcases List.mem_cons.1 (ih (row.earlier next)) with same | behind
    · rw [same]
      unfold LeafRow.earlier
      split <;> simp
    · exact List.mem_cons_of_mem _ (List.mem_cons_of_mem _ behind)

theorem mem_of_firstRow? {rows : List LeafRow} {key : HotKey} {first : LeafRow}
    (found : firstRow? rows key = some first) : first ∈ rows ∧ first.key = key := by
  unfold firstRow? at found
  split at found
  · cases found
  · rename_i row rest own
    cases found
    have inside := foldl_earlier_mem row rest
    rw [← own] at inside
    simpa using inside

theorem startsReal_of_whole {rows : List LeafRow}
    (whole : ∀ row ∈ rows, row.offset.isReal = false) (key : HotKey) :
    startsReal rows key = false := by
  unfold startsReal
  cases found : firstRow? rows key with
  | none => rfl
  | some row => exact whole row (mem_of_firstRow? found).1

variable {t : Tables} {leaves : List Leaf}

theorem hotGroups_of_hotKeys (keys : t.hotKeys = leaves.map Leaf.key)
    (whole : ∀ row ∈ t.leafRows, row.offset.isReal = false) :
    t.hotGroups = (tally leaves).map HotFrame.group := by
  have groups := startsReal_of_whole whole
  unfold Tables.hotGroups tally
  simp only [groups, keys]
  rw [eraseDups_map Leaf.key_injective, List.map_map, List.map_map]
  apply List.map_congr_left
  intro leaf _
  simp only [Function.comp_apply, HotFrame.group, HotFrame.leaf,
    List.count_map_of_injective leaves Leaf.key Leaf.key_injective leaf]

theorem ranking_of_hotKeys (keys : t.hotKeys = leaves.map Leaf.key)
    (whole : ∀ row ∈ t.leafRows, row.offset.isReal = false) :
    t.ranking = (rankedLeaves leaves).map HotFrame.group := by
  rw [Tables.ranking, hotGroups_of_hotKeys keys whole, rankedLeaves]
  symm
  apply List.map_mergeSort
  exact fun _ _ _ _ => rfl

theorem firstGroups_map (limit : Nat) (frames : List HotFrame) :
    firstGroups limit (frames.map HotFrame.group) =
      (firstFrames limit frames).map HotFrame.group := by
  unfold firstGroups firstFrames
  by_cases bounded : limit < 9_223_372_036_854_775_808
  · rw [if_pos bounded, if_pos (by omega), List.map_take]
  · rw [if_neg bounded, if_neg (by omega)]

theorem mapM_frame_group (frames : List HotFrame) :
    (frames.map HotFrame.group).mapM HotGroup.frame = .ok frames := by
  induction frames with
  | nil => rfl
  | cons f rest ih =>
    rw [List.map_cons, List.mapM_cons, HotFrame.frame_group, ih]
    rfl

-- Without samples there is nothing to rank, so the query treats no samples as it does any others.
theorem hotFrames_eq_map (t : Tables) (limit : Nat) (reaches : Nat → Bool) :
    t.hotFrames limit reaches = (firstGroups limit t.ranking).mapM HotGroup.frame >>= fun frames =>
      .ok (frames.filter (fun frame => reaches frame.samples)) := by
  unfold Tables.hotFrames
  split
  · rename_i empty
    have keys : t.hotKeys = [] := by
      unfold Tables.hotKeys Tables.leafRows
      rw [List.isEmpty_iff.1 empty, List.map_eq_nil_iff, List.filterMap_eq_nil_iff]
      exact fun _ _ => rfl
    have groups : t.ranking = [] := by
      unfold Tables.ranking Tables.hotGroups
      rw [keys]
      exact List.mergeSort_nil
    rw [groups, firstGroups, List.take_nil, ite_self]
    rfl
  · rfl

theorem hotFrames_of_hotKeys (keys : t.hotKeys = leaves.map Leaf.key)
    (whole : ∀ row ∈ t.leafRows, row.offset.isReal = false) (limit : Nat)
    (reaches : Nat → Bool) : t.hotFrames limit reaches =
      .ok ((firstFrames limit (rankedLeaves leaves)).filter (fun f => reaches f.samples)) := by
  rw [hotFrames_eq_map, ranking_of_hotKeys keys whole, firstGroups_map, mapM_frame_group]
  rfl

end Query

theorem HotFrame.Precedes.samples_le {a b : HotFrame} (h : a.Precedes b) :
    b.samples ≤ a.samples := by
  cases h with
  | samples more => exact Nat.le_of_lt more
  | path same _ => exact Nat.le_of_eq same.symm
  | offset same _ _ => exact Nat.le_of_eq same.symm

-- Where a property, once lost, stays lost, what has it is the start of the list; cutting that at a
-- length commutes with cutting it off.
theorem filter_take_of_pairwise {α : Type} {p : α → Bool} {l : List α}
    (lost : l.Pairwise (fun a b => p b = true → p a = true)) (n : Nat) :
    (l.take n).filter p = (l.filter p).take n := by
  induction l generalizing n with
  | nil => rw [List.take_nil, List.filter_nil, List.take_nil]
  | cons a rest ih =>
    rw [List.pairwise_cons] at lost
    cases n with
    | zero => rw [List.take_zero, List.take_zero, List.filter_nil]
    | succ n =>
      rw [List.take_succ_cons]
      by_cases has : p a = true
      · rw [List.filter_cons_of_pos has, List.filter_cons_of_pos has, List.take_succ_cons,
          ih lost.2]
      · have none : rest.filter p = [] :=
          List.filter_eq_nil_iff.2 fun b member later => has (lost.1 b member later)
        rw [List.filter_cons_of_neg has, List.filter_cons_of_neg has, ih lost.2, none,
          List.take_nil, List.take_nil]

-- Counts fall along the ranking, so limit and threshold commute.
theorem filter_firstFrames {frames : List HotFrame} (ordered : frames.Pairwise HotFrame.Precedes)
    {reaches : Nat → Bool} (monotone : ∀ m n, m ≤ n → reaches m = true → reaches n = true)
    (limit : Nat) :
    (firstFrames limit frames).filter (fun f => reaches f.samples) =
      firstFrames limit (frames.filter (fun f => reaches f.samples)) := by
  unfold firstFrames
  split
  · exact filter_take_of_pairwise
      (ordered.imp fun before has => monotone _ _ before.samples_le has) limit
  · rfl

end BurstProfiler.Recording
