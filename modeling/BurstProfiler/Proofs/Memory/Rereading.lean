import BurstProfiler.Proofs.Memory.FrameModules
import BurstProfiler.Proofs.Memory.ModuleIdentity

/-! When the memory map is read again. From the start of a recording on, addresses are looked up in
the snapshot that is there, until the first one that it misses; for this one the memory map is read,
and all later addresses are looked up in what was read, or in the old snapshot if nothing was. What
could be read at any other moment makes no difference. -/

set_option autoImplicit false

namespace BurstProfiler.Memory

open Schedule

def Maps.misses (maps : Maps) (address : UInt64) : Bool := (Resolver.locate? maps address).isNone

namespace Resolver

theorem isNone_lookup (around : Surroundings) (r : Resolver) (address : UInt64) :
    (r.lookup around address).1.isNone = r.maps.misses address := by
  rw [Maps.misses, ← Option.not_isSome, ← Option.not_isSome, isSome_lookup]

end Resolver

theorem Inquiry.isNone_found (q : Inquiry) :
    q.found.isNone = q.resolver.maps.misses q.address :=
  Resolver.isNone_lookup q.around q.resolver q.address

namespace FrameReader

section Address

variable {r : FrameReader} {around : Surroundings} {address : UInt64}

theorem moduleOf_unread (settled : r.refreshed = true ∨ r.resolver.maps.misses address = false) :
    r.moduleOf around address = ((r.resolver.lookup around address).1,
      ⟨(r.resolver.lookup around address).2, r.refreshed⟩) := by
  have missed := Resolver.isNone_lookup around r.resolver address
  unfold moduleOf
  cases looked : r.resolver.lookup around address with
  | mk found resolver =>
    cases found with
    | some m => rfl
    | none =>
      rw [looked] at missed
      have refreshed : r.refreshed = true :=
        settled.resolve_right (by rw [← missed]; exact nofun)
      exact if_pos refreshed

theorem maps_moduleOf_unread
    (settled : r.refreshed = true ∨ r.resolver.maps.misses address = false) :
    (r.moduleOf around address).2.resolver.maps = r.resolver.maps ∧
      (r.moduleOf around address).2.refreshed = r.refreshed := by
  rw [moduleOf_unread settled]
  exact ⟨Resolver.maps_lookup around r.resolver address, rfl⟩

theorem readings_moduleOf_unread
    (settled : r.refreshed = true ∨ r.resolver.maps.misses address = false) :
    (r.moduleOf around address).2.resolver.readings = r.resolver.readings := by
  rw [moduleOf_unread settled]
  exact Resolver.readings_lookup around r.resolver address

theorem moduleOf_read (unread : r.refreshed = false)
    (missed : r.resolver.maps.misses address = true) :
    (r.moduleOf around address).2.resolver.maps = around.maps.getD r.resolver.maps ∧
      (r.moduleOf around address).2.resolver.readings = r.resolver.readings ++ [around.maps] ∧
      (r.moduleOf around address).2.refreshed = true := by
  have miss : Resolver.locate? r.resolver.maps address = none := by
    simpa [Maps.misses] using missed
  have answer : r.moduleOf around address = ((r.resolver.resolve around address).1,
      ⟨(r.resolver.resolve around address).2, true⟩) := by
    rw [moduleOf, Resolver.lookup_none around r.resolver address miss]
    exact if_neg (Bool.eq_false_iff.1 unread)
  rw [answer, Resolver.resolve_miss around r.resolver address miss]
  cases around.maps with
  | none => exact ⟨rfl, rfl, rfl⟩
  | some maps =>
    exact ⟨Resolver.maps_lookup around _ address, Resolver.readings_lookup around _ address, rfl⟩

end Address

section Requests

variable {r : FrameReader} {asked : List Request}

theorem behind_append (r : FrameReader) (first second : List Request) :
    r.behind (first ++ second) = (r.behind first).behind second := List.foldl_append

theorem inquiries_append (r : FrameReader) (first second : List Request) :
    r.inquiries (first ++ second) = r.inquiries first ++ (r.behind first).inquiries second := by
  induction first generalizing r with
  | nil => rfl
  | cons request rest ih => exact congrArg (_ :: ·) (ih _)

theorem refreshed_behind (refreshed : r.refreshed = true) : (r.behind asked).refreshed = true := by
  induction asked generalizing r with
  | nil => exact refreshed
  | cons request rest ih => exact ih ((maps_moduleOf_unread (.inl refreshed)).2.trans refreshed)

theorem readings_of_refreshed (refreshed : r.refreshed = true) (asked : List Request) :
    (r.behind asked).resolver.readings = r.resolver.readings := by
  induction asked generalizing r with
  | nil => rfl
  | cons request rest ih =>
    have still := (@maps_moduleOf_unread r request.1 request.2 (.inl refreshed)).2
    exact (ih (still.trans refreshed)).trans (readings_moduleOf_unread (.inl refreshed))

theorem maps_of_hits (hits : ∀ q ∈ asked, r.resolver.maps.misses q.2 = false) :
    (r.behind asked).resolver.maps = r.resolver.maps ∧ (r.behind asked).refreshed = r.refreshed ∧
      ∀ q ∈ r.inquiries asked, q.resolver.maps = r.resolver.maps := by
  induction asked generalizing r with
  | nil => exact ⟨rfl, rfl, fun _ member => absurd member List.not_mem_nil⟩
  | cons request rest ih =>
    obtain ⟨own, later⟩ := List.forall_mem_cons.1 hits
    obtain ⟨same, flag⟩ := @maps_moduleOf_unread r request.1 request.2 (.inr own)
    obtain ⟨last, flag', all⟩ :=
      @ih (r.moduleOf request.1 request.2).2 (fun q member => same.symm ▸ later q member)
    refine ⟨last.trans same, flag'.trans flag, fun q member => ?_⟩
    rcases List.mem_cons.1 member with rfl | other
    · exact same
    · exact (all q other).trans same

theorem readings_of_hits (hits : ∀ q ∈ asked, r.resolver.maps.misses q.2 = false) :
    (r.behind asked).resolver.readings = r.resolver.readings := by
  induction asked generalizing r with
  | nil => rfl
  | cons request rest ih =>
    obtain ⟨own, later⟩ := List.forall_mem_cons.1 hits
    have same := (@maps_moduleOf_unread r request.1 request.2 (.inr own)).1
    have rest_read := @ih (r.moduleOf request.1 request.2).2
      (fun q member => same.symm ▸ later q member)
    exact rest_read.trans (readings_moduleOf_unread (.inr own))

theorem refreshed_of_miss {q : Request} (member : q ∈ asked)
    (missed : r.resolver.maps.misses q.2 = true) : (r.behind asked).refreshed = true := by
  induction asked generalizing r with
  | nil => cases member
  | cons request rest ih =>
    cases refreshed : r.refreshed with
    | true => exact refreshed_behind refreshed
    | false =>
      cases first : r.resolver.maps.misses request.2 with
      | true =>
        exact @refreshed_behind (r.moduleOf request.1 request.2).2 rest
          (moduleOf_read refreshed first).2.2
      | false =>
        have same := (@maps_moduleOf_unread r request.1 request.2 (.inr first)).1
        rcases List.mem_cons.1 member with rfl | later
        · rw [first] at missed
          cases missed
        · exact @ih (r.moduleOf request.1 request.2).2 later (same.symm ▸ missed)

theorem maps_of_miss {request : Request} (unread : r.refreshed = false)
    (missed : r.resolver.maps.misses request.2 = true) (rest : List Request) :
    (r.behind (request :: rest)).resolver.maps = request.1.maps.getD r.resolver.maps ∧
      (r.behind (request :: rest)).resolver.readings =
        r.resolver.readings ++ [request.1.maps] ∧
      ∀ q ∈ r.inquiries (request :: rest),
        q.resolver.maps = request.1.maps.getD r.resolver.maps := by
  obtain ⟨taken, noted, refreshed⟩ := @moduleOf_read r request.1 request.2 unread missed
  obtain ⟨last, all⟩ := maps_of_refreshed refreshed rest
  refine ⟨last.trans taken, (readings_of_refreshed refreshed rest).trans noted,
    fun q member => ?_⟩
  rcases List.mem_cons.1 member with rfl | later
  · exact taken
  · exact (all q later).trans taken

/-- Up to the first address that is missed the snapshot is the old one, and from this one on it is
what was read for it, or still the old one; nothing else is read. -/
theorem maps_at_first_miss (unread : r.refreshed = false) (asked : List Request) :
    let old := r.resolver.maps
    let found := asked.takeWhile (fun q => !old.misses q.2)
    let rest := asked.dropWhile (fun q => !old.misses q.2)
    let new := (rest.head?.bind (fun q => q.1.maps)).getD old
    (r.behind asked).resolver.maps = new ∧
      (r.behind asked).resolver.readings =
        r.resolver.readings ++ (rest.head?.map (fun q => q.1.maps)).toList ∧
      (∀ q ∈ r.inquiries found, q.resolver.maps = old) ∧
      ∀ q ∈ (r.behind found).inquiries rest, q.resolver.maps = new := by
  intro old found rest new
  have split : asked = found ++ rest := List.takeWhile_append_dropWhile.symm
  have hits : ∀ q ∈ found, r.resolver.maps.misses q.2 = false := by
    intro q member
    simpa using List.all_eq_true.1 List.all_takeWhile q member
  obtain ⟨kept, flag, first⟩ := maps_of_hits hits
  rw [split, behind_append]
  -- Behind the addresses that are found there is nothing left, or the first one that is missed.
  cases tail : rest with
  | nil =>
    have none : new = old := by simp only [new, tail, List.head?_nil, Option.bind_none]; rfl
    rw [none]
    refine ⟨kept, ?_, first, fun _ member => absurd member List.not_mem_nil⟩
    exact (readings_of_hits hits).trans (List.append_nil _).symm
  | cons q later =>
    have missed : (r.behind found).resolver.maps.misses q.2 = true := by
      have stops := List.head?_dropWhile_not (fun q : Request => !old.misses q.2) asked
      simp only [rest] at tail
      rw [tail] at stops
      rw [kept]
      simpa using stops
    have read : new = q.1.maps.getD (r.behind found).resolver.maps := by
      simp only [new, tail, kept]
      rfl
    obtain ⟨last, noted, second⟩ := maps_of_miss (flag.trans unread) missed later
    refine ⟨last.trans read.symm, ?_, first, fun q member => (second q member).trans read.symm⟩
    rw [noted, readings_of_hits hits]
    rfl

/-- At one address after others the memory map is read if this is the first that the snapshot
misses, and not otherwise. -/
theorem readings_behind_concat (unread : r.refreshed = false) (before : List Request)
    (q : Request) :
    (r.behind (before ++ [q])).resolver.readings = (r.behind before).resolver.readings ++
      if (∀ p ∈ before, r.resolver.maps.misses p.2 = false) ∧ r.resolver.maps.misses q.2 = true
        then [q.1.maps] else [] := by
  rw [behind_append]
  by_cases hits : ∀ p ∈ before, r.resolver.maps.misses p.2 = false
  · obtain ⟨same, flag, -⟩ := maps_of_hits hits
    cases missed : r.resolver.maps.misses q.2 with
    | true =>
      rw [if_pos ⟨hits, rfl⟩]
      exact (maps_of_miss (flag.trans unread) (same.symm ▸ missed) []).2.1
    | false =>
      rw [if_neg (fun both => nomatch both.2), List.append_nil]
      exact readings_moduleOf_unread (.inr (same.symm ▸ missed))
  · obtain ⟨p, member, missed⟩ : ∃ p ∈ before, r.resolver.maps.misses p.2 = true := by
      simpa using hits
    rw [if_neg (fun both => hits both.1), List.append_nil]
    exact readings_of_refreshed (refreshed_of_miss member missed) [q]

theorem map_isNone_inquiries {maps : Maps}
    (one : ∀ q ∈ r.inquiries asked, q.resolver.maps = maps) :
    (r.inquiries asked).map (fun q => q.found.isNone) =
      asked.map (fun q => maps.misses q.2) := by
  have addresses := map_address_inquiries r asked
  calc (r.inquiries asked).map (fun q => q.found.isNone)
      = (r.inquiries asked).map (fun q => maps.misses q.address) :=
        List.map_congr_left fun q member => by rw [q.isNone_found, one q member]
    _ = ((r.inquiries asked).map Inquiry.address).map maps.misses := by rw [List.map_map]; rfl
    _ = asked.map (fun q => maps.misses q.2) := by rw [addresses, List.map_map]; rfl

end Requests

section Reading

variable {r : FrameReader}

/-- Whether the memory map is read at one of several requests: what is made of them depends on what
there is to read at it. -/
def Reads (r : FrameReader) (table : ModuleTable) (before : List Request) (q : Request)
    (later : List Request) : Prop :=
  ∃ maps, r.answers table (before ++ ({ q.1 with maps := maps }, q.2) :: later) ≠
    r.answers table (before ++ q :: later)

theorem answers_unread {q : Request}
    (settled : r.refreshed = true ∨ r.resolver.maps.misses q.2 = false) (table : ModuleTable)
    (maps : Option Maps) (later : List Request) :
    r.answers table (({ q.1 with maps := maps }, q.2) :: later) = r.answers table (q :: later) := by
  have same : r.moduleOf { q.1 with maps := maps } q.2 = r.moduleOf q.1 q.2 := by
    rw [moduleOf_unread settled, moduleOf_unread settled]
    rfl
  simp only [answers, frame, same]

-- The maps that are in force at the end tell what was read, if it was.
theorem reads_iff (unread : r.refreshed = false) (table : ModuleTable) (before : List Request)
    (q : Request) (later : List Request) :
    r.Reads table before q later ↔
      (∀ p ∈ before, r.resolver.maps.misses p.2 = false) ∧ r.resolver.maps.misses q.2 = true := by
  constructor
  · rintro ⟨maps, differs⟩
    have unsettled : ¬ ((r.behind before).refreshed = true ∨
        (r.behind before).resolver.maps.misses q.2 = false) := by
      intro settled
      apply differs
      rw [answers_append, answers_append, (r.answers_told table before).1,
        answers_unread settled]
    rw [not_or, Bool.not_eq_true, Bool.not_eq_false] at unsettled
    have hits : ∀ p ∈ before, r.resolver.maps.misses p.2 = false := by
      intro p member
      rw [Bool.eq_false_iff]
      intro missed
      rw [refreshed_of_miss member missed] at unsettled
      cases unsettled.1
    exact ⟨hits, (maps_of_hits hits).1 ▸ unsettled.2⟩
  · rintro ⟨hits, missed⟩
    obtain ⟨same, flag, -⟩ := maps_of_hits hits
    -- Any snapshot will do that is not the one that there was to read.
    let old := (r.behind (before ++ q :: later)).resolver.maps
    let other : Maps := ⟨⟨0, 0, "", 0, none⟩ :: old.mappings⟩
    refine ⟨some other, fun equal => ?_⟩
    have last := (@maps_of_miss (r.behind before) ({ q.1 with maps := some other }, q.2)
      (flag.trans unread) (same.symm ▸ missed) later).1
    have kept : (r.behind
        (before ++ ({ q.1 with maps := some other }, q.2) :: later)).resolver.maps = old := by
      have readers := congrArg (fun outcome => outcome.2.1) equal
      simp only [(r.answers_told table _).1] at readers
      rw [readers]
    rw [behind_append, last, Option.getD_some] at kept
    have lengths := congrArg (fun maps => maps.mappings.length) kept
    simp [other] at lengths

end Reading

section Frames

variable {issued : List (Nat × Module)} {qs : List Inquiry} {frames : List Frame}

theorem map_isNone_of_told (told : List.Forall₂ (Told issued) qs frames) :
    frames.map (fun f => f.moduleIndex.isNone) = qs.map (fun q => q.found.isNone) := by
  induction told with
  | nil => rfl
  | cons own _ ih =>
    rw [List.map_cons, List.map_cons, ih, ← Option.not_isSome, own.resolved, Option.not_isSome]

theorem exists_told {f : Frame} (told : List.Forall₂ (Told issued) qs frames)
    (member : f ∈ frames) : ∃ q, Told issued q f := by
  induction told with
  | nil => cases member
  | @cons q _ _ _ own _ ih =>
    rcases List.mem_cons.1 member with rfl | later
    · exact ⟨q, own⟩
    · exact ih later

theorem instructionPointer_frame (r : FrameReader) (around : Surroundings) (table : ModuleTable)
    (address : UInt64) : (r.frame around table address).1.instructionPointer = address := by
  unfold frame
  split <;> rfl

theorem addresses_frames (r : FrameReader) (around : Surroundings) (table : ModuleTable)
    (addresses : List UInt64) :
    (r.frames around table addresses).1.map Frame.instructionPointer = addresses := by
  induction addresses generalizing r table with
  | nil => rfl
  | cons address rest ih =>
    rw [FrameReader.frames, List.map_cons, instructionPointer_frame, ih]

theorem addresses_samples (r : FrameReader) (table : ModuleTable) (captured : List RawStack) :
    (r.samples table captured).1.map (List.map Frame.instructionPointer) =
      captured.map RawStack.addresses := by
  induction captured generalizing r table with
  | nil => rfl
  | cons stack rest ih => rw [samples, List.map_cons, List.map_cons, addresses_frames, ih]

end Frames

/-- **The memory map is read once, for the first address that is missed.** From the start of a
recording on, as from that of the reader, over any stacks, it is read once at an address if the
snapshot misses this one and none before, and else not at all: there is one reading more behind the
stacks if an address of theirs is missed, and none if not. What is made of an address depends on
what there is to read at it in the first case only. Every sample has a frame for each of its
addresses, in order; a frame is unresolved just when the snapshot in force misses its address, which
is the old one up to the first address that it misses and from this one on what was read, or still
the old one if nothing was. The indices of frames are places of the table, whose earlier entries
stay where they are. -/
theorem map_read_at_first_miss (r : FrameReader) {table : ModuleTable} (indexed : table.Indexed)
    (captured : List RawStack) :
    let start := r.recordingStarts
    let old := start.resolver.maps
    let asked := requests captured
    let found := asked.takeWhile (fun q => !old.misses q.2)
    let rest := asked.dropWhile (fun q => !old.misses q.2)
    let new := (rest.head?.bind (fun q => q.1.maps)).getD old
    let run := start.samples table captured
    (∀ before q later, asked = before ++ q :: later →
      (start.behind (before ++ [q])).resolver.readings =
        (start.behind before).resolver.readings ++
          (if (∀ p ∈ before, old.misses p.2 = false) ∧ old.misses q.2 = true
            then [q.1.maps] else []) ∧
      (start.Reads table before q later ↔
        (∀ p ∈ before, old.misses p.2 = false) ∧ old.misses q.2 = true)) ∧
      run.2.1 = start.behind asked ∧
      run.2.1.resolver.readings =
        r.resolver.readings ++ (rest.head?.map (fun q => q.1.maps)).toList ∧
      run.2.1.resolver.maps = new ∧
      run.1.map (List.map Frame.instructionPointer) = captured.map RawStack.addresses ∧
      run.1.flatten.map (fun f => f.moduleIndex.isNone) =
        found.map (fun q => old.misses q.2) ++ rest.map (fun q => new.misses q.2) ∧
      (∀ f ∈ run.1.flatten, ∀ index ∈ f.moduleIndex, index < run.2.2.size) ∧
      ∀ index m, table.get? index = some m → run.2.2.get? index = some m := by
  intro start old asked found rest new run
  have same := start.samples_eq_answers table captured
  obtain ⟨reader, interned, told⟩ := start.answers_told table asked
  have samples : run.1.flatten = (start.answers table asked).1 := congrArg Prod.fst same
  have state : run.2 = (start.answers table asked).2 := congrArg Prod.snd same
  have split : asked = found ++ rest := List.takeWhile_append_dropWhile.symm
  obtain ⟨last, noted, first, second⟩ := @maps_at_first_miss start rfl asked
  have behind : run.2.1 = start.behind asked := (congrArg Prod.fst state).trans reader
  refine ⟨fun before q later _ => ?_, behind, ?_, ?_, ?_, ?_, ?_, ?_⟩
  · exact ⟨readings_behind_concat rfl before q, reads_iff rfl table before q later⟩
  · rw [behind]
    exact noted
  · rw [behind]
    exact last
  · exact addresses_samples start table captured
  · have parts := inquiries_append start found rest
    rw [← split] at parts
    rw [samples, map_isNone_of_told told, parts, List.map_append, map_isNone_inquiries first,
      map_isNone_inquiries second]
  · intro f member index place
    rw [samples] at member
    obtain ⟨q, own⟩ := exists_told told member
    have resolved : q.found.isSome = true := by rw [← own.resolved, place]; rfl
    obtain ⟨m, given⟩ := Option.isSome_iff_exists.1 resolved
    rw [state, interned]
    exact lt_size_of_issued indexed (own.issued index m place given)
  · intro index m entry
    rw [state, interned]
    exact get?_internAll indexed _ entry

-- The third address is missed after the reading too, and what could be read for it is not.
theorem map_read_at_first_miss_beside :
    let reader := FrameReader.ofMaps loneFile
    let captured : List RawStack :=
      [⟨⟨fun _ => none, some besideLoneFile⟩, [8208, 32784]⟩, ⟨⟨fun _ => none, none⟩, [1, 8208]⟩]
    ModuleTable.empty.Indexed ∧
      (reader.recordingStarts.samples .empty captured).2.1.resolver.maps = besideLoneFile ∧
      (reader.recordingStarts.samples .empty captured).2.1.resolver.readings =
        [some besideLoneFile] ∧
      (reader.recordingStarts.samples .empty captured).1.flatten.map
        (fun f => f.moduleIndex.isNone) = [false, false, true, false] := by
  intro reader captured
  have old : reader.recordingStarts.resolver.maps = loneFile := rfl
  have found : loneFile.misses 8208 = false := by decide +kernel
  have missed : loneFile.misses 32784 = true := by decide +kernel
  have later : [32784, 1, 8208].map besideLoneFile.misses = [false, true, false] := by
    decide +kernel
  simp only [List.map_cons, List.map_nil, List.cons.injEq, and_true] at later
  have whole := reader.map_read_at_first_miss ModuleTable.indexed_empty captured
  have requests : requests captured = [(⟨fun _ => none, some besideLoneFile⟩, 8208),
    (⟨fun _ => none, some besideLoneFile⟩, 32784), (⟨fun _ => none, none⟩, 1),
    (⟨fun _ => none, none⟩, 8208)] := rfl
  simp only [old, requests, List.takeWhile, List.dropWhile, found, missed, Bool.not_false,
    Bool.not_true, List.head?_cons, Option.bind_some, Option.map_some, Option.toList_some,
    Option.getD_some, List.map_cons, List.map_nil, List.cons_append, List.nil_append,
    later] at whole
  obtain ⟨-, -, noted, last, -, unresolved, -⟩ := whole
  exact ⟨ModuleTable.indexed_empty, last, noted, unresolved⟩

end FrameReader

end BurstProfiler.Memory
