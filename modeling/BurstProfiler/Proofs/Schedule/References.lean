import BurstProfiler.Proofs.Schedule.Delivery
import BurstProfiler.Proofs.Validation

/-! The modules that the frames of a published profile refer to. Every burst has a table of its
own, which grows with each call of the capturer, failed ones included, and may be cut off at any
slot. A frame keeps the index that it was given at the call it came from or at an earlier one of
its burst; in the profile that index still leads to the base address it was returned for. -/

set_option autoImplicit false

namespace BurstProfiler.Schedule

/-- Every index in the frames of a capture was returned for some module, in this call or in those
before it, which interned the modules in `known`. -/
def Capture.Honest (known : List Module) (c : Capture) : Prop :=
  ∀ frames, c.sample? = some frames → ∀ frame ∈ frames, ∀ index, frame.moduleIndex = some index →
    ∃ m, (index, m) ∈ ModuleTable.empty.issued (known ++ c.met)

namespace BurstEntry

def met (e : BurstEntry) : List Module := e.captures.flatMap Capture.met

/-- What the burst's table answered, each index with the module that it was returned for. -/
def issued (e : BurstEntry) : List (Nat × Module) := ModuleTable.empty.issued e.met

def Honest (e : BurstEntry) : Prop :=
  ∀ earlier c later, e.captures = earlier ++ c :: later → c.Honest (earlier.flatMap Capture.met)

end BurstEntry

structure WellFormed (q : Profile) (issued : List (Nat × Module)) : Prop where
  valid : q.badReference? = none
  distinct : (q.modules.map Module.base).Nodup
  /-- An index in a frame was returned, and its module has the base of whatever it was returned
  for. -/
  refers : ∀ frames ∈ q.samples, ∀ frame ∈ frames, ∀ index, frame.moduleIndex = some index →
    (∃ m, (index, m) ∈ issued) ∧
      ∀ m, (index, m) ∈ issued → (q.modules[index]?).map Module.base = some m.base

namespace BurstEntry

variable {e : BurstEntry}

-- An index of a sample was returned by the end of the burst, since it was at its capture.
theorem Honest.issued (honest : e.Honest) {frames : Sample} (sample : frames ∈ e.samples)
    {frame : Frame} (member : frame ∈ frames) {index : Nat}
    (reference : frame.moduleIndex = some index) : ∃ m, (index, m) ∈ e.issued := by
  obtain ⟨c, captured, answer⟩ := List.mem_filterMap.1 sample
  obtain ⟨earlier, later, split⟩ := List.append_of_mem captured
  obtain ⟨m, returned⟩ := honest earlier c later split frames answer frame member index reference
  have met : e.met = (earlier.flatMap Capture.met ++ c.met) ++ later.flatMap Capture.met := by
    rw [BurstEntry.met, split, List.flatMap_append, List.flatMap_cons, List.append_assoc]
  refine ⟨m, ?_⟩
  rw [BurstEntry.issued, met, issued_append]
  exact List.mem_append_left _ returned

theorem place_of_mem_issued {index : Nat} {m : Module} (returned : (index, m) ∈ e.issued) :
    ((firstByBase e.met)[index]?).map Module.base = some m.base := by
  rw [← toList_internAll_empty]
  exact place_of_issued ModuleTable.indexed_empty returned

theorem wellFormed_profile (p : Params) (honest : e.Honest) :
    WellFormed (e.profile p) e.issued := by
  refine ⟨?_, nodup_firstByBase _, ?_⟩
  · rw [Profile.badReference?_eq_none_iff]
    intro frames sample frame member index reference
    obtain ⟨m, returned⟩ := honest.issued sample member reference
    obtain ⟨n, place, -⟩ := Option.map_eq_some_iff.1 (place_of_mem_issued returned)
    exact (List.getElem?_eq_some_iff.1 place).1
  · intro frames sample frame member index reference
    exact ⟨honest.issued sample member reference, fun _ => place_of_mem_issued⟩

end BurstEntry

/-- **Published profiles are well formed.** If the capturer's frames carry no index but those that
the burst's table returned up to their capture, every profile that a session hands over passes
validation, has every base address once, and refers with each index to the module it was returned
for. The table handed to the capturer is one that began empty with the burst. Validation itself
succeeds just when every index is inside the list, and otherwise names the first that is not. -/
theorem published_profiles_well_formed {p : Params} {sink : Sink} {store after : PendingStore}
    {moves : List Move} {t : Session}
    (played : (Session.fresh p sink).replay? store moves = some (t, after))
    (honest : ∀ e ∈ (Journal.ofMoves moves).bursts, e.Honest) :
    (∃ bursts, bursts <+: (Journal.ofMoves moves).bursts ∧
      t.Handing sink store after (bursts.map (BurstEntry.profile p)) ∧
      ∀ e ∈ bursts, WellFormed (e.profile p) e.issued) ∧
    (∀ recording, t.run.phase = .capturing recording → recording.builder.table =
      internAll .empty ((Journal.ofMoves moves).openCaptures.flatMap Capture.met)) ∧
    ∀ q : Profile,
      (q.badReference? = none ↔
        ∀ frames ∈ q.samples, ∀ frame ∈ frames, frame.Inside q.modules.length) ∧
      ∀ bad, q.badReference? = some bad ↔ bad.IsFirst q := by
  have fits := Session.fits_replay? played
  refine ⟨⟨_, List.take_prefix _ _, fits.handing, ?_⟩, ?_, fun q => ?_⟩
  · intro e published
    exact BurstEntry.wellFormed_profile p (honest e (List.mem_of_mem_take published))
  · intro recording at_phase
    have phase := fits.run.phase
    rw [at_phase] at phase
    exact phase.2.1.table
  · exact ⟨Profile.badReference?_eq_none_iff, fun _ => Profile.badReference?_eq_some_iff⟩

/-- A call that fails behind two modules, and one that meets the first of them again under
another name and answers with the indices of both. -/
def lateReferences : List Capture := [
  ⟨[⟨4096, "feed", ⟨[47, 97]⟩⟩, ⟨8192, "", ⟨[47, 98]⟩⟩], .error (.io "maps unreadable")⟩,
  ⟨[⟨4096, "", ⟨[47, 99]⟩⟩], .ok [⟨8200, some 1⟩, ⟨0, none⟩, ⟨4100, some 0⟩]⟩]

def lateReferenceMoves : List Move :=
  [.event (.created true .origin), .event (.awoke false .origin), .event (.started .origin)] ++
    lateReferences.flatMap (fun c =>
      [.event (.awoke false .origin), .event (.captured c.met c.result)]) ++
    [.requestStop, .event (.awoke true .origin), .event (.closed .origin), .event .published,
      .event .completed]

theorem honest_lateReferences : (⟨.origin, lateReferences, .origin⟩ : BurstEntry).Honest := by
  have returned : ModuleTable.empty.issued (lateReferences.flatMap Capture.met) =
      [(0, ⟨4096, "feed", ⟨[47, 97]⟩⟩), (1, ⟨8192, "", ⟨[47, 98]⟩⟩),
        (0, ⟨4096, "", ⟨[47, 99]⟩⟩)] := by
    simp [lateReferences, ModuleTable.issued, ModuleTable.intern, ModuleTable.empty,
      Std.HashMap.getElem_insert]
  rintro (_ | ⟨_, _ | ⟨_, _⟩⟩) c later split
  · cases split
    exact fun _ answer => by cases answer
  · cases split
    intro frames answer frame member index reference
    cases answer
    simp only [List.mem_cons, List.not_mem_nil, or_false] at member
    rcases member with rfl | rfl | rfl
    · cases reference
      exact ⟨⟨8192, "", ⟨[47, 98]⟩⟩, returned ▸ by simp⟩
    · cases reference
    · cases reference
      exact ⟨⟨4096, "feed", ⟨[47, 97]⟩⟩, returned ▸ by simp⟩
  · simp [lateReferences] at split

theorem published_profiles_well_formed_late :
    ∃ t after, (Session.fresh briefParams (.custom [])).replay? .empty lateReferenceMoves =
        some (t, after) ∧
      (∀ e ∈ (Journal.ofMoves lateReferenceMoves).bursts, e.Honest) ∧
      ∃ bursts, bursts <+: (Journal.ofMoves lateReferenceMoves).bursts ∧
        t.Handing (.custom []) .empty after (bursts.map (BurstEntry.profile briefParams)) ∧
        ∀ e ∈ bursts, WellFormed (e.profile briefParams) e.issued := by
  have honest : ∀ e ∈ (Journal.ofMoves lateReferenceMoves).bursts, e.Honest := by
    intro e member
    rcases List.mem_singleton.1 member with rfl
    exact honest_lateReferences
  exact ⟨_, _, rfl, honest,
    (@published_profiles_well_formed briefParams (.custom []) .empty _ lateReferenceMoves _ rfl
      honest).1⟩

end BurstProfiler.Schedule
