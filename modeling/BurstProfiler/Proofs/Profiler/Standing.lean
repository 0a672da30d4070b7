import BurstProfiler.Proofs.Profiler.Transitions
import Mathlib.Data.List.TakeWhile

/-! How a member of a company stands behind a history. Until its start it gathers a callback and
requests to stop. From then on its session is at the point to which its own moves lead, whatever
the others do. -/

set_option autoImplicit false

namespace BurstProfiler.Profiler

open Schedule

structure Receipt where
  callback : Option Callback
  batch : List Profile

namespace Member

def moves (m : Member) : Act → List Move
  | .work _ event => [.event event]
  | .stop _ => [.requestStop]
  | .drop _ => if m.profiler.attached then [.requestStop] else []
  | _ => []

def appends (m : Member) : Act → List Profile
  | .work _ event => m.profiler.session.appends event
  | _ => []

def receives (m : Member) : Act → List Receipt
  | .work _ event => (m.profiler.session.hands event).map (fun batch =>
      ⟨m.profiler.receiver, batch⟩)
  | _ => []

end Member

def Act.isStart (i : Nat) : Act → Bool
  | .start k => k == i
  | _ => false

def Act.callback? (i : Nat) : Act → Option Callback
  | .setCallback k callback => if k = i then some callback else none
  | _ => none

/-- The callback that was set last before the first start. -/
def installed (i : Nat) (acts : List Act) : Option Callback :=
  ((acts.takeWhile (fun act => !act.isStart i)).filterMap (Act.callback? i)).getLast?

/-- Somebody waited for the run, or dropping the member is over. -/
def Awaited (i : Nat) (acts : List Act) : Prop :=
  .letGo i ∈ acts ∨ ∃ first rest, acts = first ++ .wait i :: rest ∧ .start i ∈ first

theorem isStart_iff {i : Nat} {act : Act} : act.isStart i = true ↔ act = .start i := by
  cases act with
  | start k => simp only [Act.isStart, beq_iff_eq, Act.start.injEq]
  | _ => simp [Act.isStart]

theorem takeWhile_unstarted {i : Nat} {acts : List Act} (unstarted : .start i ∉ acts)
    (rest : List Act) :
    (acts ++ rest).takeWhile (fun act => !act.isStart i) =
      acts ++ rest.takeWhile (fun act => !act.isStart i) := by
  refine List.takeWhile_append_of_pos (fun act member => ?_)
  rw [Bool.not_eq_true', Bool.eq_false_iff]
  intro contrary
  rw [isStart_iff.1 contrary] at member
  exact unstarted member

theorem installed_concat {i : Nat} {acts : List Act} (unstarted : .start i ∉ acts) (act : Act) :
    installed i (acts ++ [act]) = (act.callback? i).or (installed i acts) := by
  have whole := takeWhile_unstarted unstarted []
  rw [List.append_nil, List.takeWhile_nil, List.append_nil] at whole
  unfold installed
  rw [takeWhile_unstarted unstarted, whole, List.filterMap_append, List.getLast?_append]
  congr 1
  by_cases start : act.isStart i = true
  · obtain rfl := isStart_iff.1 start
    simp [Act.isStart, Act.callback?]
  · rw [List.takeWhile_cons, if_pos (by simpa using start), List.takeWhile_nil]
    cases set : act.callback? i with
    | none => rw [List.filterMap_cons_none set, List.filterMap_nil, List.getLast?_nil]
    | some callback =>
      rw [List.filterMap_cons_some set, List.filterMap_nil, List.getLast?_singleton]

theorem installed_append {i : Nat} {acts : List Act} (started : .start i ∈ acts)
    (rest : List Act) : installed i (acts ++ rest) = installed i acts := by
  unfold installed
  rw [List.takeWhile_append, if_neg]
  intro whole
  have all := List.takeWhile_eq_self_iff.1 ((List.takeWhile_prefix _).eq_of_length whole)
  have contrary := all _ started
  rw [Bool.not_eq_true', isStart_iff.2 rfl] at contrary
  cases contrary

theorem Awaited.append {i : Nat} {acts : List Act} (h : Awaited i acts) (rest : List Act) :
    Awaited i (acts ++ rest) := by
  rcases h with gone | ⟨first, second, rfl, started⟩
  · exact .inl (List.mem_append_left _ gone)
  · refine .inr ⟨first, second ++ rest, ?_, started⟩
    rw [List.append_assoc, List.cons_append]

theorem awaited_concat {i : Nat} {acts : List Act} {act : Act} (h : Awaited i (acts ++ [act])) :
    Awaited i acts ∨ act = .letGo i ∨ (act = .wait i ∧ .start i ∈ acts) := by
  rcases h with gone | ⟨first, rest, whole, started⟩
  · rcases List.mem_append.1 gone with earlier | last
    · exact .inl (.inl earlier)
    · exact .inr (.inl (List.mem_singleton.1 last).symm)
  · rcases List.eq_nil_or_concat rest with rfl | ⟨rest, last, rfl⟩
    · obtain ⟨rfl, same⟩ := List.append_inj' whole rfl
      cases same
      exact .inr (.inr ⟨rfl, started⟩)
    · rw [List.concat_eq_append, ← List.cons_append, ← List.append_assoc] at whole
      obtain ⟨rfl, -⟩ := List.append_inj' whole rfl
      exact .inl (.inr ⟨first, rest, rfl, started⟩)

section Joining

variable (p : Profiler)

theorem join_attached : p.join.attached = false := by
  unfold join
  split
  · rfl
  · rename_i detached
    exact Bool.eq_false_iff.2 detached

theorem join_session : p.join.session = p.session := by
  unfold join
  split <;> rfl

theorem join_started : p.join.started = p.started := by
  unfold join
  split <;> rfl

theorem join_receiver : p.join.receiver = p.receiver := by
  unfold join
  split <;> rfl

theorem join_of_detached (detached : p.attached = false) : p.join = p := by
  unfold join
  rw [detached]
  rfl

end Joining

def sinkFor (callback : Option Callback) : Sink :=
  if callback.isSome then .custom [] else .pending

/-- A member before its start. Its session has been told to stop at most, and that is the same
with every sink. -/
structure Waiting (p : Params) (callback : Option Callback) (moves : List Move)
    (appended : List Profile) (received : List Receipt) (m : Member) : Prop where
  started : m.profiler.started = false
  attached : m.profiler.attached = false
  summary : m.profiler.summary = none
  callback : m.profiler.callback = callback
  session : ∀ sink, (Session.fresh p sink).replay? .empty moves =
    some ({ m.profiler.session with sink := sink }, .empty)
  run : m.profiler.session.run = .fresh
  appended : appended = []
  received : received = []

/-- A member from its start on. -/
structure Launched (p : Params) (callback : Option Callback) (moves : List Move)
    (appended : List Profile) (received : List Receipt) (m : Member) : Prop where
  started : m.profiler.started = true
  receiver : m.profiler.receiver = callback
  session : (Session.fresh p (sinkFor callback)).replay? .empty moves =
    some (m.profiler.session, ⟨appended⟩)
  received : received = m.profiler.session.delivered.map (fun batch => ⟨callback, batch⟩)
  finished : m.profiler.attached = false → m.profiler.session.run.isOver = true
  summary : m.profiler.summary =
    if m.profiler.attached then none else m.profiler.session.run.result?

theorem replay?_snoc {s t u : Session} {store mid after : PendingStore} {moves : List Move}
    {move : Move} (played : s.replay? store moves = some (t, mid))
    (moved : t.move? mid move = some (u, after)) :
    s.replay? store (moves ++ [move]) = some (u, after) := by
  rw [Session.replay?_append, played]
  simp only [Option.bind_some, Session.replay?, moved]

section Acts

variable {p : Params} {callback : Option Callback} {moves : List Move} {appended : List Profile}
  {received : List Receipt} {m m' : Member} {store after : PendingStore} {act : Act} {i : Nat}

theorem Waiting.step (h : Waiting p callback moves appended received m)
    (step : m.Step store act m' after) (owner : act.member? = some i)
    (unstarted : act ≠ .start i) :
    Waiting p ((act.callback? i).or callback) (moves ++ m.moves act) (appended ++ m.appends act)
      (received ++ m.receives act) m' := by
  obtain ⟨started, attached, summary, set, session, run, rfl, rfl⟩ := h
  cases step with
  | setCallback k new q first =>
    cases owner
    refine ⟨started, attached, summary, ?_, ?_, run, rfl, rfl⟩
    · simp only [Act.callback?, ↓reduceIte, Option.some_or]
    · simpa only [Member.moves, List.append_nil] using session
  | setTooLate k new q late => cases late.symm.trans started
  | start k q first =>
    cases owner
    exact absurd rfl unstarted
  | startedTwice k q late => cases late.symm.trans started
  | stop k =>
    exact ⟨started, attached, summary, set, fun sink => replay?_snoc (session sink) rfl, run, rfl,
      rfl⟩
  | wait k q joins =>
    rw [join_of_detached q attached]
    refine ⟨started, attached, summary, set, ?_, run, rfl, rfl⟩
    simpa only [Member.moves, List.append_nil] using session
  | drop k q =>
    have same : q.beginDrop = q := by
      unfold beginDrop
      rw [if_neg (Bool.eq_false_iff.1 attached)]
    rw [same]
    refine ⟨started, attached, summary, set, ?_, run, rfl, rfl⟩
    simpa only [Member.moves, if_neg (Bool.eq_false_iff.1 attached), List.append_nil] using session
  | letGo k q joins =>
    rw [join_of_detached q attached]
    refine ⟨started, attached, summary, set, ?_, run, rfl, rfl⟩
    simpa only [Member.moves, List.append_nil] using session
  | work k _ event session after running => cases running.symm.trans attached

theorem Waiting.start (h : Waiting p callback moves appended received m)
    (step : m.Step store (.start i) m' after) :
    Launched p callback (moves ++ m.moves (.start i)) (appended ++ m.appends (.start i))
      (received ++ m.receives (.start i)) m' := by
  obtain ⟨started, attached, summary, rfl, session, run, rfl, rfl⟩ := h
  cases step with
  | start _ q first =>
    have untaken : q.session.delivered = [] :=
      (Session.fits_replay? (session .pending)).handing.2.2
    refine ⟨rfl, rfl, ?_, ?_, nofun, summary⟩
    · simp only [Member.moves, Member.appends, List.append_nil]
      exact session (sinkFor q.callback)
    · simp only [Member.receives, untaken, List.append_nil, List.map_nil]
  | startedTwice _ q late => cases late.symm.trans started

theorem Launched.join {q : Profiler} {presence presence' : Presence}
    (h : Launched p callback moves appended received ⟨q, presence⟩) (joins : q.mayJoin = true) :
    Launched p callback moves appended received ⟨q.join, presence'⟩ := by
  refine ⟨?_, ?_, ?_, ?_, fun _ => ?_, ?_⟩
  · exact (join_started q).trans h.started
  · exact (join_receiver q).trans h.receiver
  · rw [join_session]
    exact h.session
  · rw [join_session]
    exact h.received
  · rw [join_session]
    unfold mayJoin at joins
    rw [Bool.or_eq_true, Bool.not_eq_true'] at joins
    exact joins.elim h.finished id
  · rw [join_attached, join_session]
    cases attached : q.attached with
    | true =>
      unfold Profiler.join
      rw [if_pos attached]
      rfl
    | false =>
      have summary := h.summary
      rw [attached] at summary
      rw [join_of_detached q attached]
      exact summary

theorem Launched.requestStop (h : Launched p callback moves appended received m)
    (presence : Presence) :
    Launched p callback (moves ++ [.requestStop]) appended received
      ⟨m.profiler.stop, presence⟩ :=
  ⟨h.started, h.receiver, replay?_snoc h.session rfl, h.received, h.finished, h.summary⟩

theorem Launched.step (h : Launched p callback moves appended received m)
    (step : m.Step store act m' after) :
    Launched p callback (moves ++ m.moves act) (appended ++ m.appends act)
      (received ++ m.receives act) m' := by
  cases step with
  | setCallback k new q first => cases first.symm.trans h.started
  | start k q first => cases first.symm.trans h.started
  | setTooLate k new q late | startedTwice k q late =>
    simpa only [Member.moves, Member.appends, Member.receives, List.append_nil] using h
  | stop k =>
    simp only [Member.appends, Member.receives, List.append_nil]
    exact h.requestStop m.presence
  | wait k q joins | letGo k q joins =>
    simpa only [Member.moves, Member.appends, Member.receives, List.append_nil] using h.join joins
  | drop k q =>
    simp only [Member.moves, Member.appends, Member.receives, List.append_nil]
    unfold beginDrop
    by_cases attached : q.attached = true
    · rw [if_pos attached, if_pos attached]
      exact h.requestStop .dropping
    · rw [if_neg attached, if_neg attached, List.append_nil]
      exact ⟨h.started, h.receiver, h.session, h.received, h.finished, h.summary⟩
  | work k _ event session after running stepped =>
    have elsewhere := Session.step?_elsewhere stepped ⟨appended⟩
    refine ⟨h.started, h.receiver, replay?_snoc h.session elsewhere, ?_, ?_, ?_⟩
    · rw [h.received, (Session.step?_delivered stepped).1, List.map_append]
      simp only [Member.receives, h.receiver]
    · intro contrary
      cases running.symm.trans contrary
    · have summary := h.summary
      rw [if_pos running] at summary ⊢
      exact summary

end Acts

structure Attended (i : Nat) (acts : List Act) (m : Member) : Prop where
  started : .start i ∈ acts ↔ m.profiler.started = true
  gone : .letGo i ∈ acts ↔ m.presence = .gone
  dropping : m.presence = .dropping → m.profiler.attached = true →
    m.profiler.session.stopRequested = true
  awaited : Awaited i acts → m.profiler.attached = false ∧
    (m.presence = .gone ∨ m.profiler.started = true)
  detached : .start i ∈ acts → m.profiler.attached = false → Awaited i acts

theorem mem_concat {a act : Act} {acts : List Act} (differs : act ≠ a) :
    a ∈ acts ++ [act] ↔ a ∈ acts := by
  rw [List.mem_append, List.mem_singleton, or_iff_left (Ne.symm differs)]

theorem Attended.keep {i : Nat} {acts : List Act} {m m' : Member} {act : Act}
    (h : Attended i acts m) (starts : act ≠ .start i) (waits : act ≠ .wait i)
    (lets : act ≠ .letGo i) (started : m'.profiler.started = m.profiler.started)
    (attached : m'.profiler.attached = m.profiler.attached)
    (gone : m'.presence = .gone ↔ m.presence = .gone)
    (dropping : m'.presence = .dropping → m'.profiler.attached = true →
      m'.profiler.session.stopRequested = true) :
    Attended i (acts ++ [act]) m' := by
  refine ⟨?_, ?_, dropping, fun awaited => ?_, fun before detached => ?_⟩
  · rw [mem_concat starts, started, h.started]
  · rw [mem_concat lets, gone, h.gone]
  · rcases awaited_concat awaited with earlier | rfl | ⟨rfl, -⟩
    · rw [attached, gone, started]
      exact h.awaited earlier
    · exact absurd rfl lets
    · exact absurd rfl waits
  · rw [mem_concat starts] at before
    rw [attached] at detached
    exact (h.detached before detached).append [act]

theorem Attended.step {i : Nat} {acts : List Act} {m m' : Member} {act : Act}
    {store after : PendingStore} (h : Attended i acts m) (step : m.Step store act m' after)
    (owner : act.member? = some i) : Attended i (acts ++ [act]) m' := by
  cases step with
  | setCallback k new q first | setTooLate k new q late =>
    exact h.keep nofun nofun nofun rfl rfl Iff.rfl nofun
  | startedTwice k q late =>
    cases owner
    refine ⟨⟨fun _ => late, fun _ => List.mem_concat_self⟩,
      (mem_concat (by nofun)).trans h.gone, nofun, fun awaited => ?_, fun _ detached => ?_⟩
    · rcases awaited_concat awaited with earlier | contrary | ⟨contrary, -⟩
      · exact h.awaited earlier
      · cases contrary
      · cases contrary
    · exact (h.detached (h.started.2 late) detached).append _
  | start k q first =>
    cases owner
    refine ⟨⟨fun _ => rfl, fun _ => List.mem_concat_self⟩,
      (mem_concat (by nofun)).trans h.gone, nofun, fun awaited => ?_, nofun⟩
    -- Nobody waited for it: it is held and was not started before.
    rcases awaited_concat awaited with earlier | contrary | ⟨contrary, -⟩
    · rcases (h.awaited earlier).2 with gone | late
      · cases gone
      · cases first.symm.trans late
    · cases contrary
    · cases contrary
  | stop k =>
    exact h.keep nofun nofun nofun rfl rfl Iff.rfl (fun _ _ => rfl)
  | wait k q joins =>
    cases owner
    refine ⟨(mem_concat (by nofun)).trans ?_, (mem_concat (by nofun)).trans h.gone, nofun,
      fun awaited => ⟨join_attached q, .inr ?_⟩, fun before _ => .inr ⟨acts, [], rfl, ?_⟩⟩
    · rw [h.started, join_started]
    · rw [join_started]
      rcases awaited_concat awaited with earlier | contrary | ⟨-, started⟩
      · rcases (h.awaited earlier).2 with gone | started
        · cases gone
        · exact started
      · cases contrary
      · exact h.started.1 started
    · exact (mem_concat (by nofun)).1 before
  | drop k q =>
    have keeps : q.beginDrop.started = q.started ∧ q.beginDrop.attached = q.attached ∧
        (q.attached = true → q.beginDrop.session.stopRequested = true) := by
      unfold beginDrop
      split
      · exact ⟨rfl, rfl, fun _ => rfl⟩
      · rename_i detached
        exact ⟨rfl, rfl, fun contrary => absurd contrary detached⟩
    refine h.keep nofun nofun nofun keeps.1 keeps.2.1 ⟨nofun, nofun⟩ (fun _ attached => ?_)
    exact keeps.2.2 (keeps.2.1.symm.trans attached)
  | letGo k q joins =>
    cases owner
    refine ⟨(mem_concat (by nofun)).trans ?_, ⟨fun _ => rfl, fun _ => List.mem_concat_self⟩, nofun,
      fun _ => ⟨join_attached q, .inl rfl⟩, fun _ _ => .inl List.mem_concat_self⟩
    rw [h.started, join_started]
  | work k _ event session after running stepped =>
    refine h.keep nofun nofun nofun rfl rfl Iff.rfl (fun dropping _ => ?_)
    exact (Session.step?_stopRequested stepped).trans (h.dropping dropping running)

/-- How member `i` stands behind a history that began with nothing done. -/
structure Standing (p : Params) (c₀ : Company) (i : Nat) (acts : List Act) (m : Member) :
    Prop where
  waiting : .start i ∉ acts → Waiting p (installed i acts) (c₀.record Member.moves i acts)
    (c₀.record Member.appends i acts) (c₀.record Member.receives i acts) m
  launched : .start i ∈ acts → Launched p (installed i acts) (c₀.record Member.moves i acts)
    (c₀.record Member.appends i acts) (c₀.record Member.receives i acts) m
  attended : Attended i acts m

theorem standing_fresh (thread : ThreadId) (p : Params) (c₀ : Company) (i : Nat) :
    Standing p c₀ i [] ⟨.create thread p, .held⟩ := by
  refine ⟨fun _ => ⟨rfl, rfl, rfl, rfl, fun _ => rfl, rfl, rfl, rfl⟩, nofun, ⟨nofun, nofun⟩,
    ⟨nofun, nofun⟩, nofun, fun awaited => ?_, nofun⟩
  rcases awaited with contrary | ⟨first, rest, contrary, -⟩
  · cases contrary
  · cases first <;> cases contrary

section Histories

variable {p : Params} {c₀ c d : Company} {i : Nat} {acts : List Act} {m m' : Member} {act : Act}

theorem Standing.own (h : Standing p c₀ i acts m) (played : c₀.replay? acts = some c)
    (moved : c.step? act = some d) (owner : act.member? = some i)
    (member : c.members[i]? = some m) (step : m.Step c.store act m' d.store) :
    Standing p c₀ i (acts ++ [act]) m' := by
  have noted : ∀ {α : Type} (yield : Member → Act → List α),
      c₀.record yield i (acts ++ [act]) = c₀.record yield i acts ++ yield m act :=
    fun _ => Company.record_own played moved owner member
  refine ⟨fun unstarted => ?_, fun started => ?_, h.attended.step step owner⟩
  · rw [List.mem_append, List.mem_singleton, not_or] at unstarted
    rw [installed_concat unstarted.1, noted, noted, noted]
    exact (h.waiting unstarted.1).step step owner (Ne.symm unstarted.2)
  · rw [noted, noted, noted]
    by_cases before : .start i ∈ acts
    · rw [installed_append before]
      exact (h.launched before).step step
    · obtain rfl : .start i = act := by simpa [before] using started
      rw [installed_concat before]
      exact (h.waiting before).start step

theorem Standing.other (h : Standing p c₀ i acts m) (played : c₀.replay? acts = some c)
    (moved : c.step? act = some d) (other : act.member? ≠ some i) :
    Standing p c₀ i (acts ++ [act]) m := by
  have differs : ∀ a : Act, a.member? = some i → act ≠ a := by
    rintro a owner rfl
    exact other owner
  have untouched : ∀ {α : Type} (yield : Member → Act → List α),
      c₀.record yield i (acts ++ [act]) = c₀.record yield i acts :=
    fun _ => Company.record_other played moved other
  have attended := h.attended.keep (differs (.start i) rfl) (differs (.wait i) rfl)
    (differs (.letGo i) rfl) rfl rfl Iff.rfl h.attended.dropping
  have callback : act.callback? i = none := by
    cases act with
    | setCallback k new =>
      exact if_neg (fun same => other (congrArg some same))
    | _ => rfl
  refine ⟨fun unstarted => ?_, fun started => ?_, attended⟩
  · rw [mem_concat (differs (.start i) rfl)] at unstarted
    rw [installed_concat unstarted, callback, untouched, untouched, untouched]
    exact h.waiting unstarted
  · rw [mem_concat (differs (.start i) rfl)] at started
    rw [installed_append started, untouched, untouched, untouched]
    exact h.launched started

end Histories

def Company.ofTargets (targets : List (ThreadId × Params)) : Company :=
  .fresh (targets.map (fun target => .create target.1 target.2))

theorem member_ofTargets {targets : List (ThreadId × Params)} {i : Nat} {thread : ThreadId}
    {p : Params} (target : targets[i]? = some (thread, p)) :
    (Company.ofTargets targets).members[i]? = some ⟨.create thread p, .held⟩ := by
  simp only [Company.ofTargets, Company.fresh, List.getElem?_map, target, Option.map_some]

/-- Behind every history each member stands as its own acts have left it. -/
theorem exists_standing {targets : List (ThreadId × Params)} {i : Nat} {thread : ThreadId}
    {p : Params} {acts : List Act} {c : Company} (target : targets[i]? = some (thread, p))
    (played : (Company.ofTargets targets).replay? acts = some c) :
    ∃ m, c.members[i]? = some m ∧ Standing p (.ofTargets targets) i acts m :=
  Company.member_induction (Standing p (.ofTargets targets) i) (member_ofTargets target)
    (standing_fresh thread p _ i)
    (fun played moved owner member step h => h.own played moved owner member step)
    (fun played moved other h => h.other played moved other) played

end BurstProfiler.Profiler
