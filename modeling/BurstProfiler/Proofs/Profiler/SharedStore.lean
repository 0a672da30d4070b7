import BurstProfiler.Proofs.Profiler.Outcome

/-! A store that several profilers fill and anybody drains. The drains and what the store still
holds make up all that was ever appended, in order, and each profiler's part of that is what its
own run would have put into a store of its own. -/

set_option autoImplicit false

namespace BurstProfiler.Profiler

open Schedule

theorem Member.Step.store {m m' : Member} {store after : PendingStore} {act : Act}
    (step : m.Step store act m' after) : after.profiles = store.profiles ++ m.appends act := by
  cases step with
  | work k _ event session after running stepped => exact (Session.step?_delivered stepped).2
  | _ => exact (List.append_nil _).symm

namespace Company

variable {c d : Company} {act : Act} {acts : List Act}

def appended (c : Company) (acts : List Act) : List Profile :=
  (c.log Member.appends acts).map Prod.snd

theorem appended_concat (played : c.replay? acts = some d) {e : Company}
    (moved : d.step? act = some e) :
    c.appended (acts ++ [act]) =
      c.appended acts ++ (d.entries Member.appends act).map Prod.snd := by
  unfold appended
  rw [log_concat played moved, List.map_append]

theorem step?_store (moved : c.step? act = some d) :
    (d.drained = c.drained ∧ d.store.profiles =
      c.store.profiles ++ (c.entries Member.appends act).map Prod.snd) ∨
    (act = .drain ∧ d.drained = c.drained ++ [c.store.profiles] ∧ d.store = .empty) := by
  rcases step?_cases moved with ⟨rfl, rfl⟩ | ⟨i, m, m', store, owner, member, step, rfl⟩
  · exact .inr ⟨rfl, rfl, rfl⟩
  · refine .inl ⟨rfl, step.store.trans ?_⟩
    simp only [entries, owner, member, List.map_map, Function.comp_def, List.map_id']

/-- Nothing that was appended is lost or taken twice. -/
theorem drained_append_store (played : c.replay? acts = some d) :
    d.drained.flatten ++ d.store.profiles =
      c.drained.flatten ++ c.store.profiles ++ c.appended acts := by
  induction acts using List.reverseRecOn generalizing d with
  | nil =>
    cases played
    exact (List.append_nil _).symm
  | append_singleton acts act ih =>
    obtain ⟨u, earlier, moved⟩ := replay?_concat played
    rw [appended_concat earlier moved, ← List.append_assoc, ← ih earlier]
    rcases step?_store moved with ⟨drained, stored⟩ | ⟨rfl, drained, emptied⟩
    · rw [drained, stored, List.append_assoc]
    · rw [drained, emptied, List.flatten_append, List.flatten_singleton]
      rfl

-- The store holds the last of what was appended.
theorem store_suffix (played : c.replay? acts = some d) :
    d.store.profiles <:+ c.store.profiles ++ c.appended acts := by
  induction acts using List.reverseRecOn generalizing d with
  | nil =>
    cases played
    exact (List.append_nil _).symm ▸ List.suffix_rfl
  | append_singleton acts act ih =>
    obtain ⟨u, earlier, moved⟩ := replay?_concat played
    rw [appended_concat earlier moved, ← List.append_assoc]
    rcases step?_store moved with ⟨-, stored⟩ | ⟨rfl, -, emptied⟩
    · obtain ⟨front, whole⟩ := ih earlier
      exact ⟨front, by rw [stored, ← List.append_assoc, whole]⟩
    · rw [emptied]
      exact List.nil_suffix

theorem mem_record_of_mem_log {α : Type} {yield : Member → Act → List α} {i : Nat} {a : α}
    (entry : (i, a) ∈ c.log yield acts) : a ∈ c.record yield i acts :=
  List.mem_filterMap.2 ⟨(i, a), entry, if_pos rfl⟩

theorem members_length (moved : c.step? act = some d) : d.members.length = c.members.length := by
  rcases step?_cases moved with ⟨-, rfl⟩ | ⟨i, m, m', store, -, -, -, rfl⟩
  · rfl
  · exact List.length_set

theorem lt_of_mem_log {α : Type} {yield : Member → Act → List α} {i : Nat} {a : α}
    (entry : (i, a) ∈ c.log yield acts) : i < c.members.length := by
  induction acts generalizing c with
  | nil => cases entry
  | cons act rest ih =>
    unfold log at entry
    split at entry
    · cases entry
    · rename_i u moved
      rcases List.mem_append.1 entry with now | later
      · unfold entries at now
        split at now
        · cases now
        · split at now
          · cases now
          · rename_i k _ _ m member
            obtain ⟨b, -, same⟩ := List.mem_map.1 now
            cases same
            exact (List.getElem?_eq_some_iff.1 member).1
      · exact Nat.lt_of_lt_of_eq (ih later) (members_length moved)

theorem appended_eq_nil (silent : ∀ i < c.members.length, c.record Member.appends i acts = []) :
    c.appended acts = [] := by
  unfold appended
  rw [List.map_eq_nil_iff, List.eq_nil_iff_forall_not_mem]
  rintro ⟨i, profile⟩ entry
  have member := mem_record_of_mem_log entry
  rw [silent i (lt_of_mem_log entry)] at member
  cases member

end Company

theorem Company.members_length_replay? {c d : Company} {acts : List Act}
    (played : c.replay? acts = some d) : d.members.length = c.members.length := by
  induction acts using List.reverseRecOn generalizing d with
  | nil =>
    cases played
    rfl
  | append_singleton acts act ih =>
    obtain ⟨u, earlier, moved⟩ := Company.replay?_concat played
    exact (Company.members_length moved).trans (ih earlier)

/-- What a member has appended to the store: what the same run, of which `s` is at the same point,
has put into a store of its own. That is the profile of each of its bursts in order; the last is
missing while it is just being published. -/
structure Contributes (p : Params) (c₀ : Company) (i : Nat) (acts : List Act) (m : Member)
    (s : Session) (stored : PendingStore) : Prop where
  solo : (Session.fresh p .pending).replay? .empty (c₀.record Member.moves i acts) =
    some (s, stored)
  run : s.run = m.profiler.session.run
  part : c₀.record Member.appends i acts = stored.profiles
  bursts : (Journal.ofMoves (c₀.record Member.moves i acts)).bursts.map (BurstEntry.profile p) =
    stored.profiles ++ s.run.phase.unpublished
  awaited : Awaited i acts → c₀.record Member.appends i acts =
    (Journal.ofMoves (c₀.record Member.moves i acts)).bursts.map (BurstEntry.profile p)

/-- Behind a drain that follows all runs, nothing more is appended, and the store is empty. -/
structure Settles (c₀ : Company) (first rest : List Act) (c : Company) : Prop where
  appended : c₀.appended (first ++ .drain :: rest) = c₀.appended first
  empty : c.store = .empty
  taken : c.drained.flatten = c₀.appended first

/-- The store of a company behind a history. The drains in order, then what is left, are all that
was appended, in order. The part of a profiler without a callback is its run's. And once every run
that is ever started was waited for, one drain takes the last of it. -/
structure Shared (targets : List (ThreadId × Params)) (acts : List Act) (c : Company) :
    Prop where
  conserved : c.drained.flatten ++ c.store.profiles = (Company.ofTargets targets).appended acts
  contributes : ∀ i thread p, targets[i]? = some (thread, p) → installed i acts = none →
    ∃ m s stored, c.members[i]? = some m ∧
      Contributes p (.ofTargets targets) i acts m s stored
  settles : ∀ first rest, acts = first ++ .drain :: rest →
    (∀ i, .start i ∈ acts → Awaited i first) → Settles (.ofTargets targets) first rest c

theorem unpublished_of_isOver {r : Run} (finished : r.isOver = true) :
    r.phase.unpublished = [] := by
  unfold Run.isOver at finished
  cases at_phase : r.phase with
  | publishing b profile interrupted =>
    rw [at_phase] at finished
    cases finished
  | _ => rfl

section Histories

variable {targets : List (ThreadId × Params)} {acts : List Act} {c : Company}

theorem Standing.contributes {p : Params} {c₀ : Company} {i : Nat} {m : Member}
    (h : Standing p c₀ i acts m) (uncalled : installed i acts = none) :
    ∃ s stored, Contributes p c₀ i acts m s stored := by
  obtain ⟨s, stored, dealt⟩ := h.exists_dealt
  have part := (dealt.toStore uncalled).1
  have bursts := bursts_eq_stored dealt.solo
  refine ⟨s, stored, dealt.solo, dealt.run, part, bursts, fun awaited => ?_⟩
  have all : s.run.phase.unpublished = [] := by
    rw [dealt.run]
    by_cases started : .start i ∈ acts
    · exact unpublished_of_isOver (h.isOver started awaited)
    · rw [(h.waiting started).run]
      rfl
  rw [part, bursts, all, List.append_nil]

-- A member appends nothing behind the wait for its run, and nothing if it is never started.
theorem record_appends_eq_nil {first rest : List Act} {b : Company}
    (before : (Company.ofTargets targets).replay? first = some b)
    (behind : b.replay? rest = some c)
    (awaited : ∀ i, .start i ∈ first ++ rest → Awaited i first) :
    ∀ i < b.members.length, b.record Member.appends i rest = [] := by
  intro i inside
  have target : ∃ thread p, targets[i]? = some (thread, p) := by
    rw [Company.members_length_replay? before] at inside
    simp only [Company.ofTargets, Company.fresh, List.length_map] at inside
    exact ⟨_, _, List.getElem?_eq_getElem inside⟩
  obtain ⟨thread, p, target⟩ := target
  by_cases started : .start i ∈ first ++ rest
  · obtain ⟨m, member, standing⟩ := exists_standing target before
    exact ((standing.retired (awaited i started)).replay? member behind).1
  · have played : (Company.ofTargets targets).replay? (first ++ rest) = some c := by
      rw [Company.replay?_append, before]
      exact behind
    obtain ⟨m, -, standing⟩ := exists_standing target played
    have nothing := (standing.waiting started).appended
    rw [Company.record_append before] at nothing
    exact (List.append_eq_nil_iff.1 nothing).2

theorem settles_of_awaited {first rest : List Act}
    (played : (Company.ofTargets targets).replay? (first ++ .drain :: rest) = some c)
    (awaited : ∀ i, .start i ∈ first ++ .drain :: rest → Awaited i first) :
    Settles (.ofTargets targets) first rest c := by
  have split := played
  rw [Company.replay?_append, Option.bind_eq_some_iff] at split
  obtain ⟨b, before, behind⟩ := split
  obtain ⟨e, drained, onward⟩ := Option.bind_eq_some_iff.1 behind
  have silent : b.appended (.drain :: rest) = [] :=
    Company.appended_eq_nil (record_appends_eq_nil before behind awaited)
  have quiet : e.appended rest = [] := by
    rw [← silent]
    simp only [Company.appended, Company.log, drained]
    rfl
  have same : (Company.ofTargets targets).appended (first ++ .drain :: rest) =
      (Company.ofTargets targets).appended first := by
    unfold Company.appended at silent ⊢
    rw [Company.log_append before, List.map_append, silent, List.append_nil]
  have empty : c.store.profiles = [] := by
    have last := Company.store_suffix onward
    cases drained
    rw [quiet] at last
    exact List.suffix_nil.1 last
  refine ⟨same, congrArg PendingStore.mk empty, ?_⟩
  have all := Company.drained_append_store played
  rw [empty, List.append_nil, same] at all
  exact all

/-- **A shared store loses and repeats nothing.** Whatever the owners of the profilers do, however
their runs and the drains fall between each other: every profile that was appended was taken by
one drain or is still there, and each profiler's are those of its own run in the order of its
bursts. -/
theorem shared_store_conserves (played : (Company.ofTargets targets).replay? acts = some c) :
    Shared targets acts c := by
  refine ⟨Company.drained_append_store played, ?_, ?_⟩
  · intro i thread p target uncalled
    obtain ⟨m, member, standing⟩ := exists_standing target played
    obtain ⟨s, stored, contributes⟩ := standing.contributes uncalled
    exact ⟨m, s, stored, member, contributes⟩
  · rintro first rest rfl awaited
    exact settles_of_awaited played awaited

end Histories

def singleParams : Params := ⟨.zero, 1, .zero, 1, .zero, true⟩

def toLastSlot (i : Nat) : List Act :=
  [.start i, .work i (.created true .origin), .work i (.awoke false .origin),
    .work i (.started .origin)]

def twoTargets : List (ThreadId × Params) := [(⟨0⟩, singleParams), (⟨1⟩, singleParams)]

/-- Two profilers of which one is stopped in its slot while a drain takes the profile of the
other, which is dropped as the first is waited for. -/
def twoProfilers : List Act :=
  toLastSlot 0 ++ toLastSlot 1 ++
    [.work 1 (.awoke false .origin), .work 1 (.captured [] (.ok [⟨4096, none⟩])),
      .work 1 (.closed .origin), .stop 0, .work 0 (.awoke true .origin), .work 1 .published,
      .work 0 (.closed .origin), .drain, .work 0 .published, .work 0 .completed, .drop 1,
      .wait 0, .work 1 .completed, .letGo 1]

theorem shared_store_conserves_two_profilers :
    ∃ c, (Company.ofTargets twoTargets).replay? (twoProfilers ++ [.drain, .drain]) = some c ∧
      c.drained.map List.length = [1, 1, 0] ∧
      Shared twoTargets (twoProfilers ++ [.drain, .drain]) c ∧
      Settles (.ofTargets twoTargets) twoProfilers [.drain] c := by
  have shared := @shared_store_conserves twoTargets (twoProfilers ++ [.drain, .drain]) _ rfl
  refine ⟨_, rfl, rfl, shared, shared.settles _ _ rfl ?_⟩
  intro i started
  have either : i = 0 ∨ i = 1 := by simpa [twoProfilers, toLastSlot] using started
  rcases either with rfl | rfl
  · exact .inr ⟨twoProfilers.take 19, _, rfl, List.mem_cons_self⟩
  · exact .inl (by simp [twoProfilers])

end BurstProfiler.Profiler
