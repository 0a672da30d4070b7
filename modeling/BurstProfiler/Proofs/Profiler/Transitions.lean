import BurstProfiler.Profiler.Company
import BurstProfiler.Proofs.Schedule.Isolation
import Mathlib.Data.List.Induction

/-! The transitions of a company. Every act but a drain is one of a single member, so what is
proved about a member is proved for each of its transitions and carried over the history. -/

set_option autoImplicit false

namespace BurstProfiler.Profiler

open Schedule

def Act.member? : Act → Option Nat
  | .setCallback i _ | .start i | .stop i | .wait i | .drop i | .letGo i | .work i _ => some i
  | .drain => none

/-- The transitions of a member and the store, one for each call that is in time or too late. -/
inductive Member.Step (store : PendingStore) : Member → Act → Member → PendingStore → Prop where
  | setCallback (i : Nat) (callback : Callback) (p : Profiler) : p.started = false →
      Step store ⟨p, .held⟩ (.setCallback i callback) ⟨{ p with callback := some callback }, .held⟩
        store
  | setTooLate (i : Nat) (callback : Callback) (p : Profiler) : p.started = true →
      Step store ⟨p, .held⟩ (.setCallback i callback) ⟨p, .held⟩ store
  | start (i : Nat) (p : Profiler) : p.started = false →
      Step store ⟨p, .held⟩ (.start i) ⟨{ p with
        started := true
        attached := true
        callback := none
        receiver := p.callback
        session := { p.session with sink := if p.callback.isSome then .custom [] else .pending } },
        .held⟩ store
  | startedTwice (i : Nat) (p : Profiler) : p.started = true →
      Step store ⟨p, .held⟩ (.start i) ⟨p, .held⟩ store
  | stop (i : Nat) (m : Member) : Step store m (.stop i) ⟨m.profiler.stop, m.presence⟩ store
  | wait (i : Nat) (p : Profiler) : p.mayJoin = true →
      Step store ⟨p, .held⟩ (.wait i) ⟨p.join, .held⟩ store
  | drop (i : Nat) (p : Profiler) :
      Step store ⟨p, .held⟩ (.drop i) ⟨p.beginDrop, .dropping⟩ store
  | letGo (i : Nat) (p : Profiler) : p.mayJoin = true →
      Step store ⟨p, .dropping⟩ (.letGo i) ⟨p.join, .gone⟩ store
  | work (i : Nat) (m : Member) (event : Event) (session : Session) (after : PendingStore) :
      m.profiler.attached = true → m.profiler.session.step? store event = some (session, after) →
      Step store m (.work i event) ⟨{ m.profiler with session := session }, m.presence⟩ after

namespace Company

theorem call?_cases {c d : Company} {i : Nat} {f : Profiler → Option Profiler} {after : Presence}
    (h : c.call? i f after = some d) :
    ∃ p q, c.members[i]? = some ⟨p, .held⟩ ∧ f p = some q ∧ d = c.put i q after := by
  unfold call? at h
  split at h
  · rename_i p member
    obtain ⟨q, called, rfl⟩ := Option.map_eq_some_iff.1 h
    exact ⟨p, q, member, called, rfl⟩
  · cases h

/-- An act is a drain or the transition of one member. -/
theorem step?_cases {c d : Company} {act : Act} (h : c.step? act = some d) :
    (act = .drain ∧
      d = { c with drained := c.drained ++ [c.store.profiles], store := .empty }) ∨
    ∃ i m m' store, act.member? = some i ∧ c.members[i]? = some m ∧ m.Step c.store act m' store ∧
      d = { c with members := c.members.set i m', store := store } := by
  cases act with
  | setCallback i callback =>
    obtain ⟨p, q, member, called, rfl⟩ := call?_cases h
    cases called
    refine .inr ⟨i, _, _, c.store, rfl, member, ?_, rfl⟩
    by_cases started : p.started = true
    · rw [setCallback, if_pos started]
      exact .setTooLate i callback p started
    · rw [setCallback, if_neg started]
      exact .setCallback i callback p (Bool.eq_false_iff.2 started)
  | start i =>
    obtain ⟨p, q, member, called, rfl⟩ := call?_cases h
    cases called
    refine .inr ⟨i, _, _, c.store, rfl, member, ?_, rfl⟩
    by_cases started : p.started = true
    · rw [Profiler.start, if_pos started]
      exact .startedTwice i p started
    · rw [Profiler.start, if_neg started]
      exact .start i p (Bool.eq_false_iff.2 started)
  | stop i =>
    obtain ⟨m, member, rfl⟩ := Option.map_eq_some_iff.1 h
    exact .inr ⟨i, m, _, c.store, rfl, member, .stop i m, rfl⟩
  | wait i =>
    obtain ⟨p, q, member, called, rfl⟩ := call?_cases h
    by_cases joins : p.mayJoin = true
    · rw [if_pos joins] at called
      cases called
      exact .inr ⟨i, _, _, c.store, rfl, member, .wait i p joins, rfl⟩
    · rw [if_neg joins] at called
      cases called
  | drop i =>
    obtain ⟨p, q, member, called, rfl⟩ := call?_cases h
    cases called
    exact .inr ⟨i, _, _, c.store, rfl, member, .drop i p, rfl⟩
  | letGo i =>
    simp only [step?] at h
    split at h
    · rename_i p member
      split at h
      · rename_i joins
        cases h
        exact .inr ⟨i, _, _, c.store, rfl, member, .letGo i p joins, rfl⟩
      · cases h
    · cases h
  | work i event =>
    simp only [step?] at h
    split at h
    · cases h
    · rename_i m member
      obtain ⟨⟨q, store⟩, worked, rfl⟩ := Option.map_eq_some_iff.1 h
      unfold Profiler.step? at worked
      split at worked
      · rename_i attached
        obtain ⟨⟨session, after⟩, stepped, same⟩ := Option.map_eq_some_iff.1 worked
        cases same
        exact .inr ⟨i, m, _, after, rfl, member, .work i m _ session after attached stepped, rfl⟩
      · cases worked
  | drain =>
    cases h
    exact .inl ⟨rfl, rfl⟩

theorem replay?_append (c : Company) (first second : List Act) :
    c.replay? (first ++ second) = (c.replay? first).bind (fun d => d.replay? second) := by
  induction first generalizing c with
  | nil => rfl
  | cons act rest ih =>
    simp only [List.cons_append, replay?, Option.bind_assoc]
    exact Option.bind_congr (fun d _ => ih d)

theorem replay?_concat {c d : Company} {acts : List Act} {act : Act}
    (played : c.replay? (acts ++ [act]) = some d) :
    ∃ u, c.replay? acts = some u ∧ u.step? act = some d := by
  rw [replay?_append, Option.bind_eq_some_iff] at played
  obtain ⟨u, earlier, last⟩ := played
  obtain ⟨v, moved, rest⟩ := Option.bind_eq_some_iff.1 last
  cases rest
  exact ⟨u, earlier, moved⟩

section Records

variable {α : Type} (yield : Member → Act → List α)

def entries (c : Company) (act : Act) : List (Nat × α) :=
  match act.member? with
  | none => []
  | some i =>
    match c.members[i]? with
    | none => []
    | some m => (yield m act).map (fun a => (i, a))

def log (c : Company) : List Act → List (Nat × α)
  | [] => []
  | act :: rest =>
    match c.step? act with
    | none => []
    | some d => c.entries yield act ++ d.log rest

def record (c : Company) (i : Nat) (acts : List Act) : List α :=
  (c.log yield acts).filterMap (fun entry => if entry.1 = i then some entry.2 else none)

variable {yield}

theorem log_append {c d : Company} {first : List Act} (played : c.replay? first = some d)
    (second : List Act) :
    c.log yield (first ++ second) = c.log yield first ++ d.log yield second := by
  induction first generalizing c with
  | nil =>
    cases played
    rfl
  | cons act rest ih =>
    obtain ⟨u, moved, onward⟩ := Option.bind_eq_some_iff.1 played
    simp only [List.cons_append, log, moved]
    rw [ih onward, List.append_assoc]

theorem record_append {c d : Company} {first : List Act} (played : c.replay? first = some d)
    (i : Nat) (second : List Act) :
    c.record yield i (first ++ second) = c.record yield i first ++ d.record yield i second := by
  unfold record
  rw [log_append played, List.filterMap_append]

variable {c c₀ d : Company} {acts : List Act} {act : Act} {i : Nat} {m : Member}

theorem log_concat (played : c₀.replay? acts = some c) (moved : c.step? act = some d) :
    c₀.log yield (acts ++ [act]) = c₀.log yield acts ++ c.entries yield act := by
  rw [log_append played]
  simp only [log, moved, List.append_nil]

theorem record_own (played : c₀.replay? acts = some c) (moved : c.step? act = some d)
    (owner : act.member? = some i) (member : c.members[i]? = some m) :
    c₀.record yield i (acts ++ [act]) = c₀.record yield i acts ++ yield m act := by
  unfold record
  rw [log_concat played moved, List.filterMap_append]
  congr 1
  simp only [entries, owner, member, List.filterMap_map, Function.comp_def, ↓reduceIte,
    List.filterMap_some]

theorem record_other (played : c₀.replay? acts = some c) (moved : c.step? act = some d)
    (other : act.member? ≠ some i) :
    c₀.record yield i (acts ++ [act]) = c₀.record yield i acts := by
  unfold record
  rw [log_concat played moved, List.filterMap_append]
  refine (congrArg _ ?_).trans (List.append_nil _)
  unfold entries
  split
  · rfl
  · rename_i k owner
    have differs : k ≠ i := fun same => other (owner.trans (congrArg some same))
    split
    · rfl
    · rw [List.filterMap_map, List.filterMap_eq_nil_iff]
      exact fun a _ => if_neg differs

end Records

-- The induction is on the history from its end. An act of somebody else leaves a member alone.
theorem member_induction {c₀ c : Company} {i : Nat} {m₀ : Member} {acts : List Act}
    (holds : List Act → Member → Prop) (present : c₀.members[i]? = some m₀) (first : holds [] m₀)
    (own : ∀ {acts c act d m m'}, c₀.replay? acts = some c → c.step? act = some d →
      act.member? = some i → c.members[i]? = some m → m.Step c.store act m' d.store →
      holds acts m → holds (acts ++ [act]) m')
    (other : ∀ {acts c act d m}, c₀.replay? acts = some c → c.step? act = some d →
      act.member? ≠ some i → holds acts m → holds (acts ++ [act]) m)
    (played : c₀.replay? acts = some c) : ∃ m, c.members[i]? = some m ∧ holds acts m := by
  induction acts using List.reverseRecOn generalizing c with
  | nil =>
    cases played
    exact ⟨m₀, present, first⟩
  | append_singleton acts act ih =>
    obtain ⟨u, earlier, moved⟩ := replay?_concat played
    obtain ⟨m, member, before⟩ := ih earlier
    rcases step?_cases moved with ⟨rfl, rfl⟩ | ⟨k, n, n', store, owner, there, step, rfl⟩
    · exact ⟨m, member, other earlier moved nofun before⟩
    · by_cases same : k = i
      · subst same
        cases member.symm.trans there
        refine ⟨n', ?_, own earlier moved owner member step before⟩
        exact List.getElem?_set_self (List.getElem?_eq_some_iff.1 member).1
      · refine ⟨m, ?_, other earlier moved ?_ before⟩
        · exact (List.getElem?_set_ne same).trans member
        · rw [owner]
          exact fun contrary => same (Option.some.inj contrary)

end Company

end BurstProfiler.Profiler
