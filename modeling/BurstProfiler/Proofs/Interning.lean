import Mathlib.Data.List.Induction
import Std.Data.HashMap.Lemmas
import BurstProfiler.Schedule.Run

/-! Interning a list of modules. The table's index map and its list agree after any number of
modules, and the list then holds the modules that were the first with their base address. An index
stands for one base address from the call that returns it on, and no later call moves its module. -/

set_option autoImplicit false

namespace BurstProfiler

def firstByBase : List Module → List Module
  | [] => []
  | m :: rest => m :: (firstByBase rest).filter (fun n => n.base ≠ m.base)

def newTo (known modules : List Module) : List Module :=
  modules.filter (fun n => n.base ∉ known.map Module.base)

theorem newTo_nil (modules : List Module) : newTo [] modules = modules := by
  simp [newTo]

theorem newTo_append (known more modules : List Module) :
    newTo (known ++ more) modules = newTo more (newTo known modules) := by
  unfold newTo
  rw [List.filter_filter]
  apply List.filter_congr
  intro n _
  by_cases old : n.base ∈ known.map Module.base
  · simp only [List.map_append, List.mem_append, old, true_or, not_true_eq_false, decide_false,
      Bool.and_false]
  · simp only [List.map_append, List.mem_append, old, false_or, not_false_eq_true, decide_true,
      Bool.and_true]

theorem firstByBase_cons (m : Module) (rest : List Module) :
    firstByBase (m :: rest) = m :: newTo [m] (firstByBase rest) := by
  simp [firstByBase, newTo]

theorem firstByBase_append (first second : List Module) :
    firstByBase (first ++ second) = firstByBase first ++ newTo first (firstByBase second) := by
  induction first with
  | nil => exact (newTo_nil _).symm
  | cons m rest ih =>
    have split : newTo (m :: rest) (firstByBase second) =
        newTo rest (newTo [m] (firstByBase second)) := newTo_append [m] rest _
    have swap : newTo [m] (newTo rest (firstByBase second)) =
        newTo rest (newTo [m] (firstByBase second)) := by
      simp only [newTo, List.filter_filter, Bool.and_comm]
    rw [List.cons_append, firstByBase_cons, ih, firstByBase_cons, split, ← swap]
    simp only [newTo, List.filter_append, List.cons_append]

theorem mem_bases_firstByBase (modules : List Module) (base : UInt64) :
    base ∈ (firstByBase modules).map Module.base ↔ base ∈ modules.map Module.base := by
  induction modules with
  | nil => exact Iff.rfl
  | cons m rest ih =>
    simp only [firstByBase, List.map_cons, List.mem_cons, ← ih]
    by_cases same : base = m.base
    · simp [same]
    · simp only [same, false_or, List.mem_map, List.mem_filter, decide_eq_true_eq]
      constructor
      · rintro ⟨n, ⟨member, -⟩, rfl⟩
        exact ⟨n, member, rfl⟩
      · rintro ⟨n, member, rfl⟩
        exact ⟨n, ⟨member, same⟩, rfl⟩

theorem newTo_firstByBase (known modules : List Module) :
    newTo (firstByBase known) modules = newTo known modules := by
  apply List.filter_congr
  intro n _
  rw [decide_eq_decide, mem_bases_firstByBase]

theorem nodup_firstByBase (modules : List Module) :
    ((firstByBase modules).map Module.base).Nodup := by
  induction modules with
  | nil => exact List.nodup_nil
  | cons m rest ih =>
    rw [firstByBase, List.map_cons, List.nodup_cons]
    refine ⟨?_, ih.sublist (List.filter_sublist.map Module.base)⟩
    simp only [List.mem_map, List.mem_filter, decide_eq_true_eq]
    rintro ⟨n, ⟨-, other⟩, same⟩
    exact other same

theorem find?_of_mem_firstByBase {modules : List Module} {n : Module}
    (member : n ∈ firstByBase modules) : modules.find? (fun k => k.base == n.base) = some n := by
  induction modules with
  | nil => cases member
  | cons m rest ih =>
    rcases List.mem_cons.1 member with rfl | later
    · rw [List.find?_cons, beq_self_eq_true]
    · obtain ⟨kept, other⟩ := List.mem_filter.1 later
      have differs : (m.base == n.base) = false := by
        rw [beq_eq_false_iff_ne]
        exact fun same => of_decide_eq_true other same.symm
      rw [List.find?_cons, differs]
      exact ih kept

theorem firstByBase_prefix {first whole : List Module} (h : first <+: whole) :
    firstByBase first <+: firstByBase whole := by
  obtain ⟨second, rfl⟩ := h
  exact ⟨_, (firstByBase_append first second).symm⟩

namespace ModuleTable

theorem getElem?_toList (table : ModuleTable) (index : Nat) :
    table.toList[index]? = table.get? index := Array.getElem?_toList

/-- The index map leads from a base address to the position of the module with that base. -/
def Indexed (table : ModuleTable) : Prop :=
  ∀ (base : UInt64) (index : Nat),
    table.byBase[base]? = some index ↔ (table.modules[index]?).map Module.base = some base

theorem indexed_empty : empty.Indexed := by
  intro base index
  simp [empty]

theorem intern_known {table : ModuleTable} {m : Module} {index : Nat}
    (known : table.byBase[m.base]? = some index) : table.intern m = (index, table) := by
  simp only [intern, known]

theorem intern_new {table : ModuleTable} {m : Module} (new : table.byBase[m.base]? = none) :
    table.intern m = (table.modules.size,
      ⟨table.modules.push m, table.byBase.insert m.base table.modules.size⟩) := by
  simp only [intern, new]

theorem Indexed.none_iff {table : ModuleTable} (h : table.Indexed) (base : UInt64) :
    table.byBase[base]? = none ↔ base ∉ table.toList.map Module.base := by
  constructor
  · intro new member
    obtain ⟨index, place⟩ := List.getElem?_of_mem member
    have known := (h base index).2 (by simpa [toList] using place)
    rw [new] at known
    cases known
  · intro absent
    cases known : table.byBase[base]? with
    | none => rfl
    | some index =>
      have place := (h base index).1 known
      exact absurd (List.mem_of_getElem? (i := index) (by simpa [toList] using place)) absent

theorem Indexed.intern {table : ModuleTable} (h : table.Indexed) (m : Module) :
    (table.intern m).2.Indexed := by
  cases known : table.byBase[m.base]? with
  | some index => rw [intern_known known]; exact h
  | none =>
    rw [intern_new known]
    intro base index
    simp only [Std.HashMap.getElem?_insert, Array.getElem?_push]
    by_cases same : m.base = base
    · subst same
      simp only [BEq.rfl, ↓reduceIte, Option.some.injEq]
      constructor
      · intro last
        simp [last]
      · intro place
        split at place
        · rename_i last; exact last.symm
        · have old := (h m.base index).2 place
          rw [known] at old
          cases old
    · rw [if_neg (by simpa using same), h base index]
      split
      · rename_i last
        subst last
        simp [same]
      · exact Iff.rfl

theorem toList_intern {table : ModuleTable} (h : table.Indexed) (m : Module) :
    (table.intern m).2.toList = table.toList ++ newTo table.toList [m] := by
  cases known : table.byBase[m.base]? with
  | some index =>
    have present : m.base ∈ table.toList.map Module.base := by
      have same := mt (h.none_iff m.base).2
      rw [known] at same
      exact Decidable.not_not.1 (same (by simp))
    rw [intern_known known, newTo, List.filter_cons_of_neg (by simpa using present)]
    exact (List.append_nil _).symm
  | none =>
    have absent := (h.none_iff m.base).1 known
    rw [intern_new known, newTo, List.filter_cons_of_pos (by simpa using absent)]
    exact Array.toList_push

-- The index that a module gets is the place of its base address from then on.
theorem Indexed.place_intern {table : ModuleTable} (h : table.Indexed) (m : Module) :
    ((table.intern m).2.toList[(table.intern m).1]?).map Module.base = some m.base := by
  cases known : table.byBase[m.base]? with
  | some index =>
    rw [intern_known known]
    have place := (h m.base index).1 known
    rw [← Array.getElem?_toList] at place
    exact place
  | none =>
    rw [intern_new known]
    simp [toList]

theorem Indexed.byBase_intern {table : ModuleTable} (h : table.Indexed) (m : Module) :
    (table.intern m).2.byBase[m.base]? = some (table.intern m).1 := by
  have place := h.place_intern m
  rw [getElem?_toList] at place
  exact (h.intern m m.base _).2 place

theorem Indexed.index_eq_iff {table : ModuleTable} (h : table.Indexed) {first second : UInt64}
    {i j : Nat} (one : table.byBase[first]? = some i) (other : table.byBase[second]? = some j) :
    i = j ↔ first = second := by
  constructor
  · rintro rfl
    have place := (h first i).1 one
    rw [(h second i).1 other] at place
    exact (Option.some.inj place).symm
  · rintro rfl
    exact Option.some.inj (one.symm.trans other)

structure Interns (table : ModuleTable) (m : Module) (answer : Nat × ModuleTable) : Prop where
  inside : answer.1 < answer.2.size
  place : (answer.2.get? answer.1).map Module.base = some m.base
  known : m.base ∈ table.toList.map Module.base → answer.2 = table
  new : m.base ∉ table.toList.map Module.base → answer.2.toList = table.toList ++ [m]

theorem Indexed.interns {table : ModuleTable} (h : table.Indexed) (m : Module) :
    Interns table m (table.intern m) := by
  have place : ((table.intern m).2.get? (table.intern m).1).map Module.base = some m.base :=
    (h.intern m m.base _).1 (h.byBase_intern m)
  obtain ⟨n, entry, -⟩ := Option.map_eq_some_iff.1 place
  obtain ⟨inside, -⟩ := Array.getElem?_eq_some_iff.1 entry
  refine ⟨inside, place, fun present => ?_, fun absent => ?_⟩
  · cases known : table.byBase[m.base]? with
    | some index => rw [intern_known known]
    | none => exact absurd present ((h.none_iff m.base).1 known)
  · rw [toList_intern h, newTo, List.filter_cons_of_pos (by simpa using absent), List.filter_nil]

/-- A table as it is behind these modules, interned in turn. -/
structure Catalogues (table : ModuleTable) (met : List Module) : Prop where
  indexed : table.Indexed
  distinct : (table.toList.map Module.base).Nodup
  firsts : table.toList = firstByBase met
  length : table.toList.length = table.size
  places : ∀ index, table.toList[index]? = table.get? index

/-- The indices that modules get, interned in turn, each with the module it was returned for. -/
def issued (table : ModuleTable) : List Module → List (Nat × Module)
  | [] => []
  | m :: rest => ((table.intern m).1, m) :: (table.intern m).2.issued rest

end ModuleTable

namespace Schedule

theorem indexed_internAll {table : ModuleTable} (h : table.Indexed) (met : List Module) :
    (internAll table met).Indexed := by
  induction met generalizing table with
  | nil => exact h
  | cons m rest ih => exact ih (h.intern m)

theorem prefix_internAll {table : ModuleTable} (h : table.Indexed) (met : List Module) :
    table.toList <+: (internAll table met).toList := by
  induction met generalizing table with
  | nil => exact List.prefix_rfl
  | cons m rest ih =>
    have one : table.toList <+: (table.intern m).2.toList :=
      ⟨_, (ModuleTable.toList_intern h m).symm⟩
    exact one.trans (ih (h.intern m))

theorem issued_append (table : ModuleTable) (first second : List Module) :
    table.issued (first ++ second) =
      table.issued first ++ (internAll table first).issued second := by
  induction first generalizing table with
  | nil => rfl
  | cons m rest ih => exact congrArg (((table.intern m).1, m) :: ·) (ih _)

theorem get?_internAll {table : ModuleTable} (indexed : table.Indexed) (met : List Module)
    {index : Nat} {m : Module} (entry : table.get? index = some m) :
    (internAll table met).get? index = some m := by
  rw [← ModuleTable.getElem?_toList] at entry ⊢
  obtain ⟨more, grown⟩ := prefix_internAll indexed met
  obtain ⟨inside, -⟩ := List.getElem?_eq_some_iff.1 entry
  rw [← grown, List.getElem?_append_left inside]
  exact entry

theorem byBase_internAll {table : ModuleTable} (indexed : table.Indexed) (met : List Module)
    {base : UInt64} {index : Nat} (known : table.byBase[base]? = some index) :
    (internAll table met).byBase[base]? = some index := by
  obtain ⟨m, entry, same⟩ := Option.map_eq_some_iff.1 ((indexed base index).1 known)
  have kept : (internAll table met).get? index = some m := get?_internAll indexed met entry
  exact (indexed_internAll indexed met base index).2 (Option.map_eq_some_iff.2 ⟨m, kept, same⟩)

-- Whatever is interned later, an index leads to the base address that it was returned for.
theorem place_of_issued {table : ModuleTable} (h : table.Indexed) {met : List Module}
    {index : Nat} {m : Module} (returned : (index, m) ∈ table.issued met) :
    ((internAll table met).toList[index]?).map Module.base = some m.base := by
  induction met generalizing table with
  | nil => cases returned
  | cons first rest ih =>
    rcases List.mem_cons.1 returned with same | later
    · cases same
      obtain ⟨n, place, base⟩ := Option.map_eq_some_iff.1 (h.place_intern m)
      rw [ModuleTable.getElem?_toList] at place
      refine Option.map_eq_some_iff.2 ⟨n, ?_, base⟩
      rw [ModuleTable.getElem?_toList]
      exact get?_internAll (h.intern m) rest place
    · exact ih (h.intern first) later

theorem lt_size_of_issued {table : ModuleTable} (indexed : table.Indexed) {met : List Module}
    {index : Nat} {m : Module} (returned : (index, m) ∈ table.issued met) :
    index < (internAll table met).size := by
  obtain ⟨n, place, -⟩ := Option.map_eq_some_iff.1 (place_of_issued indexed returned)
  obtain ⟨inside, -⟩ := List.getElem?_eq_some_iff.1 place
  exact inside

theorem toList_internAll_empty (met : List Module) :
    (internAll .empty met).toList = firstByBase met := by
  induction met using List.reverseRecOn with
  | nil => rfl
  | append_singleton earlier m ih =>
    calc (internAll .empty (earlier ++ [m])).toList
        = ((internAll .empty earlier).intern m).2.toList := by
          rw [internAll, List.foldl_append]
          rfl
      _ = firstByBase earlier ++ newTo (firstByBase earlier) [m] := by
          rw [ModuleTable.toList_intern (indexed_internAll ModuleTable.indexed_empty earlier), ih]
      _ = firstByBase (earlier ++ [m]) := by
          rw [newTo_firstByBase, firstByBase_append]
          rfl

theorem catalogues_internAll (met : List Module) : (internAll .empty met).Catalogues met := by
  refine ⟨indexed_internAll ModuleTable.indexed_empty met, ?_, toList_internAll_empty met,
    Array.length_toList, ModuleTable.getElem?_toList _⟩
  rw [toList_internAll_empty]
  exact nodup_firstByBase met

/-- **Interning numbers base addresses in the order they first come.** Behind any modules, a table
that began empty lists those that were the first with their base, and its map leads from the bases
of the list, and from no others, to their one place each. The next module gets a place inside the
list whose module has its base; the table stays as it is if the base was there, and otherwise the
list grows by this module alone. Whatever is interned behind it, the place keeps its module, and
another call returns the same index just when its module has the same base. -/
theorem interning_numbers_bases (earlier : List Module) (m : Module) (between : List Module)
    (n : Module) :
    let before := internAll .empty earlier
    let answer := before.intern m
    let behind := internAll answer.2 between
    before.Catalogues earlier ∧
      ModuleTable.Interns before m answer ∧
      (∃ k, answer.2.get? answer.1 = some k ∧ behind.get? answer.1 = some k) ∧
      (answer.1 = (behind.intern n).1 ↔ m.base = n.base) := by
  intro before answer behind
  have indexed : before.Indexed := indexed_internAll ModuleTable.indexed_empty earlier
  have grown : answer.2.Indexed := indexed.intern m
  have later : behind.Indexed := indexed_internAll grown between
  have interns : ModuleTable.Interns before m answer := indexed.interns m
  refine ⟨catalogues_internAll earlier, interns, ?_, ?_⟩
  · obtain ⟨k, entry, -⟩ := Option.map_eq_some_iff.1 interns.place
    exact ⟨k, entry, get?_internAll grown between entry⟩
  · -- Both indices are read off the table behind the second call.
    have first : (internAll answer.2 (between ++ [n])).byBase[m.base]? = some answer.1 :=
      byBase_internAll grown _ (indexed.byBase_intern m)
    have last : internAll answer.2 (between ++ [n]) = (behind.intern n).2 :=
      List.foldl_append
    rw [last] at first
    exact (later.intern n).index_eq_iff first (later.byBase_intern n)

-- A base of its own appends the second module, and the first one under another name gets its index.
theorem interning_numbers_bases_renamed :
    let library : Module := ⟨4096, "feed", ⟨[47, 97]⟩⟩
    let program : Module := ⟨8192, "", ⟨[47, 98]⟩⟩
    let renamed : Module := ⟨4096, "", ⟨[47, 99]⟩⟩
    let one := internAll .empty [library]
    let two := internAll .empty [library, program]
    program.base ∉ one.toList.map Module.base ∧
      (one.intern program).2.toList = one.toList ++ [program] ∧
      renamed.base ∈ two.toList.map Module.base ∧ (two.intern renamed).2 = two ∧
      (ModuleTable.empty.intern library).1 = (two.intern renamed).1 := by
  intro library program renamed one two
  obtain ⟨catalogue, appends, -, -⟩ := interning_numbers_bases [library] program [] renamed
  obtain ⟨whole, keeps, -, -⟩ := interning_numbers_bases [library, program] renamed [] renamed
  obtain ⟨-, -, -, same⟩ := interning_numbers_bases [] library [program] renamed
  have absent : program.base ∉ one.toList.map Module.base := by rw [catalogue.firsts]; decide
  have present : renamed.base ∈ two.toList.map Module.base := by rw [whole.firsts]; decide
  exact ⟨absent, appends.new absent, present, keeps.known present, same.2 rfl⟩

end Schedule

end BurstProfiler
