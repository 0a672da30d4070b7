import BurstProfiler.Proofs.Interning
import BurstProfiler.Proofs.LossyPaths
import BurstProfiler.Proofs.Memory.Resolving
import Mathlib.Data.List.Forall2

/-! Which modules frames refer to. The table of a profile tells modules apart by their base address,
so a frame refers to the first module that a lookup gave with the base that its own lookup gave.
That is the module of its address as long as no two files share a base in the snapshots in force,
and it is another file's where two do. -/

set_option autoImplicit false

namespace BurstProfiler.Memory

open Schedule

/-- A lookup as a frame is made: the resolver holds the snapshot that is in force then. -/
structure Inquiry where
  around : Surroundings
  resolver : Resolver
  address : UInt64

def Inquiry.found (q : Inquiry) : Option Module := (q.resolver.lookup q.around q.address).1

structure RawStack where
  around : Surroundings
  addresses : List UInt64

abbrev Request := Surroundings × UInt64

def requests (captured : List RawStack) : List Request :=
  captured.flatMap (fun stack => stack.addresses.map (fun address => (stack.around, address)))

namespace FrameReader

/-- The samples of one stack after the other. All their modules enter one table. -/
def samples (r : FrameReader) (table : ModuleTable) :
    List RawStack → List Sample × FrameReader × ModuleTable
  | [] => ([], r, table)
  | stack :: rest =>
    let (sample, r, table) := r.frames stack.around table stack.addresses
    let (more, r, table) := r.samples table rest
    (sample :: more, r, table)

def answers (r : FrameReader) (table : ModuleTable) :
    List Request → List Frame × FrameReader × ModuleTable
  | [] => ([], r, table)
  | (around, address) :: rest =>
    let (frame, r, table) := r.frame around table address
    let (more, r, table) := r.answers table rest
    (frame :: more, r, table)

def inquiries (r : FrameReader) : List Request → List Inquiry
  | [] => []
  | (around, address) :: rest =>
    ⟨around, (r.moduleOf around address).2.resolver, address⟩ ::
      (r.moduleOf around address).2.inquiries rest

def behind (r : FrameReader) (asked : List Request) : FrameReader :=
  asked.foldl (fun r q => (r.moduleOf q.1 q.2).2) r

section Requests

variable (r : FrameReader) (table : ModuleTable)

theorem frames_eq_answers (around : Surroundings) (addresses : List UInt64) :
    r.frames around table addresses =
      r.answers table (addresses.map (fun address => (around, address))) := by
  induction addresses generalizing r table with
  | nil => rfl
  | cons address rest ih => simp only [frames, List.map_cons, answers, ih]

theorem answers_append (first second : List Request) :
    r.answers table (first ++ second) =
      ((r.answers table first).1 ++
          ((r.answers table first).2.1.answers (r.answers table first).2.2 second).1,
        ((r.answers table first).2.1.answers (r.answers table first).2.2 second).2) := by
  induction first generalizing r table with
  | nil => rfl
  | cons request rest ih => simp only [List.cons_append, answers, ih]

theorem samples_eq_answers (captured : List RawStack) :
    ((r.samples table captured).1.flatten, (r.samples table captured).2) =
      r.answers table (requests captured) := by
  induction captured generalizing r table with
  | nil => rfl
  | cons stack rest ih =>
    have split : requests (stack :: rest) =
        stack.addresses.map (fun address => (stack.around, address)) ++ requests rest := rfl
    rw [split, answers_append, ← frames_eq_answers, ← ih]
    rfl

theorem snd_requests (captured : List RawStack) :
    (requests captured).map Prod.snd = captured.flatMap RawStack.addresses := by
  simp only [requests, List.map_flatMap, List.map_map, Function.comp_def, List.map_id']

theorem map_address_inquiries (asked : List Request) :
    (r.inquiries asked).map Inquiry.address = asked.map Prod.snd := by
  induction asked generalizing r with
  | nil => rfl
  | cons request rest ih => exact congrArg (request.2 :: ·) (ih _)

end Requests

/-- A frame against the lookup it was made of: its index was returned for the module given. -/
structure Told (issued : List (Nat × Module)) (q : Inquiry) (frame : Frame) : Prop where
  address : frame.instructionPointer = q.address
  resolved : frame.moduleIndex.isSome = q.found.isSome
  issued : ∀ index m, frame.moduleIndex = some index → q.found = some m → (index, m) ∈ issued

theorem Told.mono {issued more : List (Nat × Module)} {q : Inquiry} {frame : Frame}
    (h : Told issued q frame) (grown : issued ⊆ more) : Told more q frame :=
  ⟨h.address, h.resolved, fun index m place given => grown (h.issued index m place given)⟩

-- The induction is on the addresses. What a frame is told is issued at it and stays issued.
theorem answers_told (r : FrameReader) (table : ModuleTable) (asked : List Request) :
    (r.answers table asked).2.1 = r.behind asked ∧
      (r.answers table asked).2.2 =
        internAll table ((r.inquiries asked).filterMap Inquiry.found) ∧
      List.Forall₂ (Told (table.issued ((r.inquiries asked).filterMap Inquiry.found)))
        (r.inquiries asked) (r.answers table asked).1 := by
  induction asked generalizing r table with
  | nil => exact ⟨rfl, rfl, .nil⟩
  | cons request rest ih =>
    obtain ⟨around, address⟩ := request
    have looked := (asked_moduleOf around r address).looked
    have gives : ∀ m?, (r.moduleOf around address).1 = m? →
        (⟨around, (r.moduleOf around address).2.resolver, address⟩ : Inquiry).found = m? :=
      fun _ same => looked.trans same
    cases given : r.moduleOf around address with
    | mk m? next =>
      have found := gives m? (congrArg Prod.fst given)
      rw [given] at found
      cases m? with
      | none =>
        obtain ⟨reader, interned, told⟩ := ih next table
        have frame : r.frame around table address = (⟨address, none⟩, next, table) := by
          simp only [FrameReader.frame, given]
        simp only [answers, inquiries, frame, given, List.filterMap_cons, found]
        refine ⟨?_, interned, .cons ⟨rfl, ?_, nofun⟩ told⟩
        · rw [reader, behind, behind, List.foldl_cons, given]
        · rw [found]
          rfl
      | some m =>
        obtain ⟨reader, interned, told⟩ := ih next (table.intern m).2
        have frame : r.frame around table address =
            (⟨address, some (table.intern m).1⟩, next, (table.intern m).2) := by
          simp only [FrameReader.frame, given]
        simp only [answers, inquiries, frame, given, List.filterMap_cons, found,
          ModuleTable.issued]
        refine ⟨?_, interned, .cons ⟨rfl, ?_, ?_⟩ (told.imp fun q f h => h.mono ?_)⟩
        · rw [reader, behind, behind, List.foldl_cons, given]
        · rw [found]
          rfl
        · intro index n place other
          rw [found] at other
          cases place
          cases other
          exact List.mem_cons_self
        · exact List.subset_cons_self _ _

theorem maps_of_refreshed {r : FrameReader} (refreshed : r.refreshed = true)
    (asked : List Request) :
    (r.behind asked).resolver.maps = r.resolver.maps ∧
      ∀ q ∈ r.inquiries asked, q.resolver.maps = r.resolver.maps := by
  induction asked generalizing r with
  | nil => exact ⟨rfl, fun _ member => absurd member List.not_mem_nil⟩
  | cons request rest ih =>
    obtain ⟨around, address⟩ := request
    rcases (asked_moduleOf around r address).snapshot with ⟨same, flag⟩ | ⟨contrary, -⟩
    · have still : (r.moduleOf around address).2.refreshed = true :=
        flag.elim (fun kept => kept.trans refreshed) id
      obtain ⟨last, later⟩ := ih still
      refine ⟨last.trans same, ?_⟩
      intro q member
      rcases List.mem_cons.1 member with rfl | other
      · exact same
      · exact (later q other).trans same
    · rw [refreshed] at contrary
      cases contrary

theorem snapshot_of_mem {r : FrameReader} {asked : List Request} {q : Inquiry}
    (member : q ∈ r.inquiries asked) :
    q.resolver.maps = r.resolver.maps ∨ q.resolver.maps = (r.behind asked).resolver.maps := by
  induction asked generalizing r with
  | nil => cases member
  | cons request rest ih =>
    obtain ⟨around, address⟩ := request
    rcases (asked_moduleOf around r address).snapshot with ⟨same, -⟩ | ⟨-, refreshed, -⟩
    · rcases List.mem_cons.1 member with rfl | later
      · exact .inl same
      · exact (ih later).imp_left (fun first => first.trans same)
    · obtain ⟨last, all⟩ := maps_of_refreshed refreshed rest
      rcases List.mem_cons.1 member with rfl | later
      · exact .inr last.symm
      · exact .inr ((all q later).trans last.symm)

theorem recalls_behind (r : FrameReader) (asked : List Request) :
    r.resolver.Recalls (r.behind asked).resolver := by
  induction asked generalizing r with
  | nil => exact .refl _
  | cons request rest ih => exact (asked_moduleOf request.1 r request.2).recalls.trans (ih _)

theorem remembered_of_found {r : FrameReader} {asked : List Request} {q : Inquiry} {m : Module}
    (member : q ∈ r.inquiries asked) (found : q.found = some m) :
    ∃ path, Resolver.locate? q.resolver.maps q.address = some (path, m.base) ∧
      m.path = .ofString path ∧ (r.behind asked).resolver.buildIds[path]? = some m.buildId := by
  induction asked generalizing r with
  | nil => cases member
  | cons request rest ih =>
    obtain ⟨around, address⟩ := request
    rcases List.mem_cons.1 member with rfl | later
    · have asked := asked_moduleOf around r address
      obtain ⟨path, place, name, id⟩ := asked.remembers m (asked.looked.symm.trans found)
      exact ⟨path, place, name, recalls_behind _ rest path m.buildId id⟩
    · exact ih later

-- The build id of a file is read once, so modules of one file with one base are the same.
theorem eq_of_base_of_path {r : FrameReader} {asked : List Request} {q q' : Inquiry}
    {m m' : Module} (member : q ∈ r.inquiries asked) (found : q.found = some m)
    (member' : q' ∈ r.inquiries asked) (found' : q'.found = some m') (base : m.base = m'.base)
    (path : m.path = m'.path) : m = m' := by
  obtain ⟨name, -, named, id⟩ := remembered_of_found member found
  obtain ⟨name', -, named', id'⟩ := remembered_of_found member' found'
  obtain rfl : name = name' := Path.ofString_injective (named.symm.trans (path.trans named'))
  have buildId := Option.some.inj (id.symm.trans id')
  cases m
  cases m'
  cases base
  cases path
  cases buildId
  rfl

end FrameReader

/-- In some snapshots no two files at which addresses are found have one base. -/
def HasOwnBases (snapshots : List Maps) : Prop :=
  ∀ s ∈ snapshots, ∀ s' ∈ snapshots, ∀ a a' path path' base,
    Resolver.locate? s a = some (path, base) → Resolver.locate? s' a' = some (path', base) →
    path = path'

/-- The files that can be found in a snapshot, each with its base. -/
def Maps.placed (maps : Maps) : List (String × UInt64) :=
  maps.mappings.filterMap (fun m => do
    let path ← m.filePath?
    let base ← maps.loadBase? path
    pure (path, base))

theorem Maps.mem_placed {maps : Maps} {address : UInt64} {place : String × UInt64}
    (found : Resolver.locate? maps address = some place) : place ∈ maps.placed := by
  obtain ⟨mapping, executable, rest⟩ := Option.bind_eq_some_iff.1 found
  exact List.mem_filterMap.2 ⟨mapping, List.mem_of_find?_eq_some executable, rest⟩

-- For given snapshots this can be decided.
theorem hasOwnBases_of_placed {snapshots : List Maps}
    (h : ∀ p ∈ snapshots.flatMap Maps.placed, ∀ p' ∈ snapshots.flatMap Maps.placed,
      p.2 = p'.2 → p.1 = p'.1) : HasOwnBases snapshots := by
  intro s member s' member' a a' path path' base found found'
  exact h _ (List.mem_flatMap.2 ⟨s, member, Maps.mem_placed found⟩)
    _ (List.mem_flatMap.2 ⟨s', member', Maps.mem_placed found'⟩) rfl

/-- A frame refers to the first module that was found with the base of its own. -/
structure Refers (found : List Module) (table : ModuleTable) (q : Inquiry) (frame : Frame) :
    Prop where
  address : frame.instructionPointer = q.address
  resolved : frame.moduleIndex.isSome = q.found.isSome
  first : ∀ index m, frame.moduleIndex = some index → q.found = some m →
    ∃ n, table.get? index = some n ∧ n.base = m.base ∧
      found.find? (fun k => k.base == m.base) = some n ∧ (n = m ↔ n.path = m.path)

namespace FrameReader

section Referring

variable {r : FrameReader} {asked : List Request} {q : Inquiry} {frame : Frame}

theorem Told.refers (member : q ∈ r.inquiries asked)
    (h : Told (ModuleTable.empty.issued ((r.inquiries asked).filterMap Inquiry.found)) q frame) :
    Refers ((r.inquiries asked).filterMap Inquiry.found)
      (internAll .empty ((r.inquiries asked).filterMap Inquiry.found)) q frame := by
  refine ⟨h.address, h.resolved, ?_⟩
  intro index m place given
  have issued := h.issued index m place given
  obtain ⟨n, there, base⟩ :=
    Option.map_eq_some_iff.1 (place_of_issued ModuleTable.indexed_empty issued)
  have kept := there
  rw [toList_internAll_empty] at kept
  have first := find?_of_mem_firstByBase (List.mem_of_getElem? kept)
  obtain ⟨q', member', found'⟩ := List.mem_filterMap.1 (List.mem_of_find?_eq_some first)
  refine ⟨n, ?_, base, base ▸ first, fun same => same ▸ rfl, fun path => ?_⟩
  · rw [← ModuleTable.getElem?_toList]
    exact there
  · exact eq_of_base_of_path member' found' member given base path

-- With bases of their own, a file is the only one to come up with its base, so it came up first.
theorem get?_of_refers {table : ModuleTable}
    (apart : HasOwnBases [r.resolver.maps, (r.behind asked).resolver.maps])
    (member : q ∈ r.inquiries asked)
    (h : Refers ((r.inquiries asked).filterMap Inquiry.found) table q frame) {index : Nat}
    (place : frame.moduleIndex = some index) : table.get? index = q.found := by
  have known : ∀ p ∈ r.inquiries asked,
      p.resolver.maps ∈ [r.resolver.maps, (r.behind asked).resolver.maps] := by
    intro p asked
    simpa only [List.mem_cons, List.not_mem_nil, or_false] using snapshot_of_mem asked
  have resolved : q.found.isSome = true := by rw [← h.resolved, place]; rfl
  obtain ⟨m, found⟩ := Option.isSome_iff_exists.1 resolved
  obtain ⟨n, there, base, first, same⟩ := h.first index m place found
  obtain ⟨q', member', found'⟩ := List.mem_filterMap.1 (List.mem_of_find?_eq_some first)
  obtain ⟨path, at_path, name, -⟩ := remembered_of_found member found
  obtain ⟨path', at_path', name', -⟩ := remembered_of_found member' found'
  have one : path' = path := apart _ (known q' member') _ (known q member) _ _ _ _ n.base at_path'
    (base ▸ at_path)
  have equal : n = m := same.2 (by rw [name, name', one])
  rw [there, found, equal]

end Referring

theorem forall₂_imp_of_mem {α β : Type} {R S : α → β → Prop} {as : List α} {bs : List β}
    (h : List.Forall₂ R as bs) (imp : ∀ a ∈ as, ∀ b, R a b → S a b) : List.Forall₂ S as bs := by
  obtain ⟨length, pairs⟩ := List.forall₂_iff_zip.1 h
  exact List.forall₂_iff_zip.2
    ⟨length, fun pair => imp _ (List.of_mem_zip pair).1 _ (pairs pair)⟩

/-- **A frame refers to the first module with its base.** Over any stacks into one table, with the
one new snapshot that may fall between their addresses, the index in a frame leads to a module with
the base that the lookup of its address gave, the first that was found with it; this is the module
that the lookup gave just when it has the path of that one. If no two files have one base in the
snapshots in force, every index leads to the very module that the lookup gave. -/
theorem frames_refer_to_first_of_base (r : FrameReader) (captured : List RawStack) :
    let run := r.samples .empty captured
    let lookups := r.inquiries (requests captured)
    lookups.map Inquiry.address = captured.flatMap RawStack.addresses ∧
      (∀ q ∈ lookups, q.resolver.maps = r.resolver.maps ∨
        q.resolver.maps = run.2.1.resolver.maps) ∧
      List.Forall₂ (Refers (lookups.filterMap Inquiry.found) run.2.2) lookups run.1.flatten ∧
      (HasOwnBases [r.resolver.maps, run.2.1.resolver.maps] →
        List.Forall₂ (fun q frame => ∀ index, frame.moduleIndex = some index →
          run.2.2.get? index = q.found) lookups run.1.flatten) := by
  intro run lookups
  have same := r.samples_eq_answers .empty captured
  obtain ⟨reader, table, told⟩ := r.answers_told .empty (requests captured)
  have samples : run.1.flatten = (r.answers .empty (requests captured)).1 := congrArg Prod.fst same
  have state : run.2 = (r.answers .empty (requests captured)).2 := congrArg Prod.snd same
  rw [samples, state, reader, table]
  have refers : List.Forall₂ (Refers (lookups.filterMap Inquiry.found)
      (internAll .empty (lookups.filterMap Inquiry.found))) lookups
      (r.answers .empty (requests captured)).1 :=
    forall₂_imp_of_mem told fun q member frame h => h.refers member
  refine ⟨?_, fun q member => snapshot_of_mem member, refers, fun apart => ?_⟩
  · rw [map_address_inquiries, snd_requests]
  · exact forall₂_imp_of_mem refers fun q member frame h index place =>
      get?_of_refers apart member h place

section Examples

def loneFile : Maps := .parse "2000-3000 r-xp 1000 0 0 /a".toList

def besideLoneFile : Maps :=
  .parse "2000-3000 r-xp 1000 0 0 /a\n8000-9000 r-xp 0 0 0 /b".toList

theorem frames_refer_to_first_of_base_with_own_bases :
    let reader := FrameReader.ofMaps loneFile
    let captured : List RawStack := [⟨⟨fun _ => none, some besideLoneFile⟩, [8208, 32784]⟩]
    let run := reader.samples .empty captured
    HasOwnBases [loneFile, besideLoneFile] ∧ run.2.1.resolver.maps = besideLoneFile ∧
      List.Forall₂ (fun q frame => ∀ index, frame.moduleIndex = some index →
        run.2.2.get? index = q.found) (reader.inquiries (requests captured)) run.1.flatten := by
  intro reader captured run
  have apart : HasOwnBases [loneFile, besideLoneFile] := hasOwnBases_of_placed (by decide +kernel)
  have first : Resolver.locate? loneFile 8208 = some ("/a", 4096) := by decide +kernel
  have missed : Resolver.locate? loneFile 32784 = none := by decide +kernel
  have second : Resolver.locate? besideLoneFile 32784 = some ("/b", 32768) := by decide +kernel
  have last : run.2.1.resolver.maps = besideLoneFile := by
    simp [run, reader, captured, samples, frames, frame, moduleOf, ofMaps, Resolver.ofMaps,
      Resolver.lookup, Resolver.resolve, Resolver.reread, Resolver.buildId, first, missed, second]
  refine ⟨apart, last, (reader.frames_refer_to_first_of_base captured).2.2.2 ?_⟩
  have snapshots : [reader.resolver.maps, run.2.1.resolver.maps] = [loneFile, besideLoneFile] := by
    rw [last]
    rfl
  exact snapshots ▸ apart

/-- Two files with one base: the second is mapped as far behind the first as into itself. -/
def sharedBase : Maps :=
  .parse "1000-2000 r-xp 0 0 0 /a\n3000-4000 r-xp 2000 0 0 /b".toList

-- The second address is looked up in `/b`, and its frame refers to `/a`.
theorem frames_refer_elsewhere :
    let reader := FrameReader.ofMaps sharedBase
    let captured : List RawStack := [⟨⟨fun _ => none, none⟩, [4112, 12304]⟩]
    (reader.inquiries (requests captured)).map Inquiry.found =
        [some ⟨4096, "", .ofString "/a"⟩, some ⟨4096, "", .ofString "/b"⟩] ∧
      (reader.samples .empty captured).1 = [[⟨4112, some 0⟩, ⟨12304, some 0⟩]] ∧
      (reader.samples .empty captured).2.2.toList = [⟨4096, "", .ofString "/a"⟩] := by
  have first : Resolver.locate? sharedBase 4112 = some ("/a", 4096) := by decide +kernel
  have second : Resolver.locate? sharedBase 12304 = some ("/b", 4096) := by decide +kernel
  simp [requests, inquiries, Inquiry.found, samples, frames, frame, moduleOf, ofMaps,
    Resolver.ofMaps, Resolver.lookup, Resolver.buildId, first, second, ModuleTable.empty,
    ModuleTable.intern, ModuleTable.toList]

end Examples

end FrameReader

end BurstProfiler.Memory
