import BurstProfiler.Proofs.Profiler.Standing

/-! What comes of a member. Its profiles go where its callback sends them and are those that the
same run would have put into a store of its own; and nothing comes of it any more once somebody
has waited for its run. -/

set_option autoImplicit false

namespace BurstProfiler.Profiler

open Schedule

/-- What a member did with its profiles, against the session `s` that is at the same point of the
same run and has filled a store of its own. -/
structure Dealt (p : Params) (callback : Option Callback) (moves : List Move)
    (appended : List Profile) (received : List Receipt) (m : Member) (s : Session)
    (stored : PendingStore) : Prop where
  solo : (Session.fresh p .pending).replay? .empty moves = some (s, stored)
  run : s.run = m.profiler.session.run
  toStore : callback = none → appended = stored.profiles ∧ received = []
  toCallback : callback.isSome → appended = [] ∧
    received = if m.profiler.session.run.result?.isSome then [⟨callback, stored.profiles⟩] else []

section Dealing

variable {p : Params} {callback : Option Callback} {moves : List Move} {appended : List Profile}
  {received : List Receipt} {m : Member}

theorem Waiting.dealt (h : Waiting p callback moves appended received m) :
    Dealt p callback moves appended received m { m.profiler.session with sink := .pending }
      .empty := by
  refine ⟨h.session .pending, rfl, fun _ => ⟨h.appended, h.received⟩,
    fun _ => ⟨h.appended, h.received.trans ?_⟩⟩
  rw [h.run]
  rfl

theorem Launched.exists_dealt (h : Launched p callback moves appended received m) :
    ∃ s stored, Dealt p callback moves appended received m s stored := by
  have session := h.session
  have delivered := h.received
  obtain ⟨s, stored, solo, same⟩ := exists_solo session
  refine ⟨s, stored, solo, same, ?_, ?_⟩
  · rintro rfl
    cases solo.symm.trans session
    refine ⟨rfl, delivered.trans ?_⟩
    rw [(Session.fits_replay? session).handing.2.2]
    rfl
  · intro set
    unfold sinkFor at session
    rw [if_pos set] at session
    obtain ⟨untouched, batches⟩ := delivered_eq_stored session solo same
    refine ⟨congrArg PendingStore.profiles untouched, delivered.trans ?_⟩
    rw [batches]
    split <;> rfl

end Dealing

theorem Standing.exists_dealt {p : Params} {c₀ : Company} {i : Nat} {acts : List Act} {m : Member}
    (h : Standing p c₀ i acts m) :
    ∃ s stored, Dealt p (installed i acts) (c₀.record Member.moves i acts)
      (c₀.record Member.appends i acts) (c₀.record Member.receives i acts) m s stored := by
  by_cases started : .start i ∈ acts
  · exact (h.launched started).exists_dealt
  · exact ⟨_, _, (h.waiting started).dealt⟩

theorem Standing.isOver {p : Params} {c₀ : Company} {i : Nat} {acts : List Act} {m : Member}
    (h : Standing p c₀ i acts m) (started : .start i ∈ acts) (awaited : Awaited i acts) :
    m.profiler.session.run.isOver = true :=
  (h.launched started).finished (h.attended.awaited awaited).1

structure Retired (m : Member) : Prop where
  detached : m.profiler.attached = false
  settled : m.presence = .gone ∨ m.profiler.started = true

-- It cannot be started any more, so its session only learns of more requests to stop.
theorem Retired.step {m m' : Member} {store after : PendingStore} {act : Act} (h : Retired m)
    (step : m.Step store act m' after) :
    Retired m' ∧ m.appends act = [] ∧ m.receives act = [] := by
  obtain ⟨detached, settled⟩ := h
  cases step with
  | setCallback k new q first => exact ⟨⟨detached, settled⟩, rfl, rfl⟩
  | setTooLate k new q late | startedTwice k q late => exact ⟨⟨detached, settled⟩, rfl, rfl⟩
  | start k q first =>
    rcases settled with gone | late
    · cases gone
    · cases first.symm.trans late
  | stop k => exact ⟨⟨detached, settled⟩, rfl, rfl⟩
  | wait k q joins =>
    rw [join_of_detached q detached]
    exact ⟨⟨detached, settled⟩, rfl, rfl⟩
  | drop k q =>
    unfold beginDrop
    rw [if_neg (Bool.eq_false_iff.1 detached)]
    refine ⟨⟨detached, settled.imp nofun id⟩, rfl, rfl⟩
  | letGo k q joins =>
    rw [join_of_detached q detached]
    exact ⟨⟨detached, .inl rfl⟩, rfl, rfl⟩
  | work k _ event session after running stepped => cases running.symm.trans detached

theorem Retired.replay? {c d : Company} {i : Nat} {m : Member} {acts : List Act} (h : Retired m)
    (member : c.members[i]? = some m) (played : c.replay? acts = some d) :
    c.record Member.appends i acts = [] ∧ c.record Member.receives i acts = [] := by
  obtain ⟨-, -, -, silent⟩ := Company.member_induction
    (fun acts m => Retired m ∧ c.record Member.appends i acts = [] ∧
      c.record Member.receives i acts = []) member ⟨h, rfl, rfl⟩
    (fun {_ _ _ _ _ _} earlier moved owner there step ⟨retired, appends, receives⟩ => by
      obtain ⟨retired', nothing, nobody⟩ := retired.step step
      rw [Company.record_own earlier moved owner there, appends, nothing,
        Company.record_own earlier moved owner there, receives, nobody]
      exact ⟨retired', rfl, rfl⟩)
    (fun {_ _ _ _ _} earlier moved other ⟨retired, appends, receives⟩ => by
      rw [Company.record_other earlier moved other, appends,
        Company.record_other earlier moved other, receives]
      exact ⟨retired, rfl, rfl⟩) played
  exact silent

theorem Standing.retired {p : Params} {c₀ : Company} {i : Nat} {acts : List Act} {m : Member}
    (h : Standing p c₀ i acts m) (awaited : Awaited i acts) : Retired m :=
  ⟨(h.attended.awaited awaited).1, (h.attended.awaited awaited).2⟩

end BurstProfiler.Profiler
