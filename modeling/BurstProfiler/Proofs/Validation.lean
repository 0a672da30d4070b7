import BurstProfiler.Profile

/-! Validation of a profile. It succeeds when every frame's index is inside the profile's list of
modules, and otherwise finds the first frame whose index is not, sample by sample and frame by
frame. -/

set_option autoImplicit false

namespace BurstProfiler

def Frame.Inside (modules : Nat) (frame : Frame) : Prop :=
  ∀ index, frame.moduleIndex = some index → index < modules

/-- The reference is that of the first frame outside the list of modules: neither a sample before
its own has such a frame, nor its own sample before it. -/
def BadReference.IsFirst (bad : BadReference) (p : Profile) : Prop :=
  ∃ earlier before frame behind later,
    p.samples = earlier ++ (before ++ frame :: behind) :: later ∧
    (∀ frames ∈ earlier, ∀ f ∈ frames, f.Inside p.modules.length) ∧
    (∀ f ∈ before, f.Inside p.modules.length) ∧
    frame.moduleIndex = some bad.index ∧ p.modules.length ≤ bad.index ∧
    bad = ⟨earlier.length, frame.instructionPointer, bad.index, p.modules.length⟩

namespace Profile

def badIndex? (modules : Nat) (frame : Frame) : Option (UInt64 × Nat) :=
  match frame.moduleIndex with
  | some index => if index < modules then none else some (frame.instructionPointer, index)
  | none => none

theorem badFrame?_eq_findSome? (modules : Nat) (frames : Sample) :
    badFrame? modules frames = frames.findSome? (badIndex? modules) := rfl

theorem badIndex?_eq_none_iff {modules : Nat} {frame : Frame} :
    badIndex? modules frame = none ↔ frame.Inside modules := by
  unfold badIndex? Frame.Inside
  cases frame.moduleIndex with
  | none => simp
  | some index =>
    simp only [ite_eq_left_iff, reduceCtorEq, imp_false, Decidable.not_not, Option.some.injEq,
      forall_eq']

theorem badIndex?_eq_some_iff {modules : Nat} {frame : Frame} {address : UInt64} {index : Nat} :
    badIndex? modules frame = some (address, index) ↔
      frame.moduleIndex = some index ∧ modules ≤ index ∧ frame.instructionPointer = address := by
  unfold badIndex?
  cases frame.moduleIndex with
  | none => simp
  | some own =>
    by_cases inside : own < modules
    · simp only [if_pos inside, reduceCtorEq, Option.some.injEq, false_iff]
      rintro ⟨rfl, outside, -⟩
      omega
    · simp only [if_neg inside, Option.some.injEq, Prod.mk.injEq]
      constructor
      · rintro ⟨rfl, rfl⟩
        exact ⟨rfl, by omega, rfl⟩
      · rintro ⟨rfl, -, rfl⟩
        exact ⟨rfl, rfl⟩

theorem badFrame?_eq_none_iff {modules : Nat} {frames : Sample} :
    badFrame? modules frames = none ↔ ∀ frame ∈ frames, frame.Inside modules := by
  rw [badFrame?_eq_findSome?, List.findSome?_eq_none_iff]
  exact forall₂_congr (fun _ _ => badIndex?_eq_none_iff)

theorem badFrame?_eq_some_iff {modules : Nat} {frames : Sample} {address : UInt64} {index : Nat} :
    badFrame? modules frames = some (address, index) ↔
      ∃ before frame behind, frames = before ++ frame :: behind ∧
        (∀ f ∈ before, f.Inside modules) ∧
        frame.moduleIndex = some index ∧ modules ≤ index ∧ frame.instructionPointer = address := by
  rw [badFrame?_eq_findSome?, List.findSome?_eq_some_iff]
  simp only [badIndex?_eq_some_iff, badIndex?_eq_none_iff]
  refine exists₃_congr (fun before frame behind => and_congr_right (fun _ => ?_))
  exact and_comm

theorem badReferenceFrom?_eq_none_iff {modules first : Nat} {samples : List Sample} :
    badReferenceFrom? modules first samples = none ↔
      ∀ frames ∈ samples, ∀ frame ∈ frames, frame.Inside modules := by
  induction samples generalizing first with
  | nil => simp [badReferenceFrom?]
  | cons frames rest ih =>
    rw [List.forall_mem_cons, ← badFrame?_eq_none_iff, badReferenceFrom?]
    cases badFrame? modules frames with
    | some found => simp
    | none => simp only [ih, true_and]

-- The samples are split at the one that has the first bad frame, which carries its number.
theorem badReferenceFrom?_eq_some_iff {modules first : Nat} {samples : List Sample}
    {bad : BadReference} :
    badReferenceFrom? modules first samples = some bad ↔
      ∃ earlier frames later, samples = earlier ++ frames :: later ∧
        (∀ others ∈ earlier, badFrame? modules others = none) ∧
        badFrame? modules frames = some (bad.address, bad.index) ∧
        bad = ⟨first + earlier.length, bad.address, bad.index, modules⟩ := by
  induction samples generalizing first with
  | nil => simp [badReferenceFrom?]
  | cons frames rest ih =>
    rw [badReferenceFrom?]
    cases here : badFrame? modules frames with
    | some found =>
      obtain ⟨address, index⟩ := found
      constructor
      · intro same
        cases same
        exact ⟨[], frames, rest, rfl, fun _ member => absurd member List.not_mem_nil, here, rfl⟩
      · rintro ⟨_ | ⟨other, earlier⟩, _, _, split, good, bad_frame, same⟩
        · cases split
          cases here.symm.trans bad_frame
          exact congrArg some same.symm
        · cases split
          cases here.symm.trans (good frames List.mem_cons_self)
    | none =>
      refine ih.trans ?_
      constructor
      · rintro ⟨earlier, bad_sample, later, rfl, good, bad_frame, same⟩
        refine ⟨frames :: earlier, bad_sample, later, rfl, ?_, bad_frame, ?_⟩
        · exact List.forall_mem_cons.2 ⟨here, good⟩
        · rw [List.length_cons, Nat.add_comm earlier.length, ← Nat.add_assoc]
          exact same
      · rintro ⟨_ | ⟨other, earlier⟩, bad_sample, later, split, good, bad_frame, same⟩
        · cases split
          cases here.symm.trans bad_frame
        · cases split
          refine ⟨earlier, bad_sample, later, rfl, ?_, bad_frame, ?_⟩
          · exact fun others member => good others (List.mem_cons_of_mem _ member)
          · rw [List.length_cons, Nat.add_comm earlier.length, ← Nat.add_assoc] at same
            exact same

theorem badReference?_eq_none_iff {p : Profile} :
    p.badReference? = none ↔
      ∀ frames ∈ p.samples, ∀ frame ∈ frames, frame.Inside p.modules.length :=
  badReferenceFrom?_eq_none_iff

theorem badReference?_eq_some_iff {p : Profile} {bad : BadReference} :
    p.badReference? = some bad ↔ bad.IsFirst p := by
  unfold badReference?
  rw [badReferenceFrom?_eq_some_iff]
  simp only [badFrame?_eq_some_iff, badFrame?_eq_none_iff, Nat.zero_add]
  constructor
  · rintro ⟨earlier, _, later, samples, good, ⟨before, frame, behind, rfl, inside, index, outside,
      address⟩, same⟩
    rw [← address] at same
    exact ⟨earlier, before, frame, behind, later, samples, good, inside, index, outside, same⟩
  · rintro ⟨earlier, before, frame, behind, later, samples, good, inside, index, outside, same⟩
    have address : frame.instructionPointer = bad.address :=
      (congrArg BadReference.address same).symm
    rw [address] at same
    exact ⟨earlier, _, later, samples, good,
      ⟨before, frame, behind, rfl, inside, index, outside, address⟩, same⟩

end Profile

end BurstProfiler
