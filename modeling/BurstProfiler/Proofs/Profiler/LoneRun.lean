import BurstProfiler.Proofs.Profiler.Lifecycle
import BurstProfiler.Proofs.Profiler.SharedStore

/-! A profiler that is alone with its store. Somebody starts it and waits for it, and it may be told
to stop at any time, before the start as well. What the store then holds are the profiles of the
bursts of its run, and unless the run broke off, the summary has the accounts of these bursts. -/

set_option autoImplicit false

namespace BurstProfiler.Profiler

open Schedule

def Act.isOngoing : Act → Bool
  | .work 0 _ | .stop 0 => true
  | _ => false

/-- The acts of a run from before its start to the end of the wait for it. -/
def LoneRun (acts : List Act) : Prop :=
  ∃ early during, acts = early ++ .start 0 :: (during ++ [.wait 0]) ∧
    ∀ act ∈ early ++ during, act.isOngoing = true

section Acts

variable {acts : List Act}

theorem LoneRun.started (h : LoneRun acts) : .start 0 ∈ acts := by
  obtain ⟨early, during, rfl, -⟩ := h
  exact List.mem_append_right _ List.mem_cons_self

theorem LoneRun.awaited (h : LoneRun acts) : Awaited 0 acts := by
  obtain ⟨early, during, rfl, -⟩ := h
  refine .inr ⟨early ++ .start 0 :: during, [], ?_, ?_⟩
  · rw [List.append_assoc, List.cons_append]
  · exact List.mem_append_right _ List.mem_cons_self

theorem LoneRun.cases (h : LoneRun acts) {act : Act} (member : act ∈ acts) :
    act = .start 0 ∨ act = .wait 0 ∨ act.isOngoing = true := by
  obtain ⟨early, during, rfl, ongoing⟩ := h
  simp only [List.mem_append, List.mem_cons, List.not_mem_nil, or_false] at member ongoing
  rcases member with before | rfl | within | rfl
  · exact .inr (.inr (ongoing act (.inl before)))
  · exact .inl rfl
  · exact .inr (.inr (ongoing act (.inr within)))
  · exact .inr (.inl rfl)

theorem LoneRun.undrained (h : LoneRun acts) : .drain ∉ acts := by
  intro member
  rcases h.cases member with same | same | ongoing
  · cases same
  · cases same
  · cases ongoing

theorem LoneRun.uncalled (h : LoneRun acts) : installed 0 acts = none := by
  have none : (acts.takeWhile (fun act => !act.isStart 0)).filterMap (Act.callback? 0) = [] := by
    rw [List.filterMap_eq_nil_iff]
    intro act member
    rcases h.cases (List.takeWhile_subset _ member) with rfl | rfl | ongoing
    · rfl
    · rfl
    · cases act with
      | setCallback k callback => cases ongoing
      | _ => rfl
  rw [installed, none]
  rfl

end Acts

section Histories

variable {targets : List (ThreadId × Params)} {c₀ c : Company} {acts : List Act} {i : Nat}

theorem Company.store_of_undrained (undrained : .drain ∉ acts)
    (played : c₀.replay? acts = some c) :
    c.store.profiles = c₀.store.profiles ++ c₀.appended acts := by
  induction acts using List.reverseRecOn generalizing c with
  | nil =>
    cases played
    exact (List.append_nil _).symm
  | append_singleton acts act ih =>
    rw [List.mem_append, not_or] at undrained
    obtain ⟨u, earlier, moved⟩ := Company.replay?_concat played
    rw [Company.appended_concat earlier moved, ← List.append_assoc, ← ih undrained.1 earlier]
    rcases Company.step?_store moved with ⟨-, stored⟩ | ⟨rfl, -, -⟩
    · exact stored
    · exact absurd List.mem_cons_self undrained.2

theorem Company.appended_eq_record (alone : c₀.members.length = 1) :
    c₀.appended acts = c₀.record Member.appends 0 acts := by
  have own : ∀ entry ∈ c₀.log Member.appends acts, entry.1 = 0 := by
    rintro ⟨k, profile⟩ entry
    have inside := Company.lt_of_mem_log entry
    exact Nat.lt_one_iff.1 (alone ▸ inside)
  unfold Company.appended Company.record
  generalize c₀.log Member.appends acts = entries at own
  induction entries with
  | nil => rfl
  | cons entry rest ih =>
    have later := ih fun other member => own other (List.mem_cons_of_mem _ member)
    rw [List.map_cons, later, List.filterMap_cons, if_pos (own entry List.mem_cons_self)]

theorem eq_work_of_event {m : Member} {act : Act} {event : Event} (owner : act.member? = some i)
    (noted : .event event ∈ m.moves act) : .work i event = act := by
  cases act with
  | work k e =>
    cases owner
    cases List.mem_singleton.1 noted
    rfl
  | stop k => cases List.mem_singleton.1 noted
  | drop k =>
    simp only [Member.moves] at noted
    split at noted
    · cases List.mem_singleton.1 noted
    · cases noted
  | _ => cases noted

theorem mem_of_event {thread : ThreadId} {p : Params} (target : targets[i]? = some (thread, p))
    (played : (Company.ofTargets targets).replay? acts = some c) {event : Event}
    (noted : .event event ∈ (Company.ofTargets targets).record Member.moves i acts) :
    .work i event ∈ acts := by
  obtain ⟨-, -, known⟩ := Company.member_induction
    (fun acts _ => .event event ∈ (Company.ofTargets targets).record Member.moves i acts →
      .work i event ∈ acts)
    (member_ofTargets target) (fun contrary => absurd contrary List.not_mem_nil)
    (fun {_ _ act _ m _} earlier moved owner there _ before noted => by
      rw [Company.record_own earlier moved owner there, List.mem_append] at noted
      rcases noted with old | new
      · exact List.mem_append_left _ (before old)
      · exact List.mem_append_right _ (List.mem_singleton.2 (eq_work_of_event owner new)))
    (fun {_ _ _ _ _} earlier moved other before noted => by
      rw [Company.record_other earlier moved other] at noted
      exact List.mem_append_left _ (before noted)) played
  exact known noted

theorem capturer_ofMoves {moves : List Move} {available : Bool}
    (answered : (Journal.ofMoves moves).capturer = some available) :
    ∃ now, .event (.created available now) ∈ moves := by
  induction moves using List.reverseRecOn with
  | nil => cases answered
  | append_singleton moves move ih =>
    rw [Journal.ofMoves, List.foldl_append] at answered
    have kept : (Journal.ofMoves moves).capturer = some available →
        ∃ now, .event (.created available now) ∈ moves ++ [move] := fun earlier =>
      (ih earlier).imp fun _ member => List.mem_append_left _ member
    cases move with
    | requestStop => exact kept answered
    | event event =>
      cases event with
      | created _ now =>
        cases answered
        exact ⟨now, List.mem_concat_self⟩
      | _ => exact kept answered

end Histories

section Runs

variable {thread : ThreadId} {p : Params} {acts : List Act} {c : Company}

def burstsOf (targets : List (ThreadId × Params)) (i : Nat) (acts : List Act) : List BurstEntry :=
  (Journal.ofMoves ((Company.ofTargets targets).record Member.moves i acts)).bursts

theorem target_alone (thread : ThreadId) (p : Params) :
    [(thread, p)][0]? = some (thread, p) := rfl

variable (course : LoneRun acts)
  (played : (Company.ofTargets [(thread, p)]).replay? acts = some c)

include course played

theorem store_of_loneRun :
    c.store.profiles = (burstsOf [(thread, p)] 0 acts).map (BurstEntry.profile p) := by
  obtain ⟨m, -, standing⟩ := exists_standing (target_alone thread p) played
  obtain ⟨s, stored, contributes⟩ := standing.contributes course.uncalled
  rw [burstsOf, ← contributes.awaited course.awaited, ← Company.appended_eq_record rfl]
  exact Company.store_of_undrained course.undrained played

theorem accounts_of_loneRun (available : ∀ now, .work 0 (.created false now) ∉ acts)
    {summary : Summary} (reported : (c.members[0]?).bind (·.profiler.summary) = some summary) :
    summary.unavailable = false ∧ summary.profiles = (burstsOf [(thread, p)] 0 acts).length ∧
      summary.samples =
        totalSamples ((burstsOf [(thread, p)] 0 acts).map (BurstEntry.profile p)) := by
  obtain ⟨m, member, standing⟩ := exists_standing (target_alone thread p) played
  have launched := standing.launched course.started
  have detached := (standing.attended.awaited course.awaited).1
  have returned : m.profiler.session.run.result? = some summary := by
    rw [member, Option.bind_some, launched.summary, detached] at reported
    exact reported
  have fits := (Session.fits_replay? launched.session).run
  rcases fits.idled_or_accounts returned with idled | ⟨-, accounts⟩
  · obtain ⟨now, created⟩ := capturer_ofMoves idled.capturer
    exact absurd (mem_of_event (target_alone thread p) played created) (available now)
  · exact ⟨accounts.available, accounts.profiles.symm, accounts.samples⟩

theorem exists_summary_of_loneRun (unbroken : ∀ message, .work 0 (.broke message) ∉ acts) :
    ∃ summary, (c.members[0]?).bind (·.profiler.summary) = some summary := by
  obtain ⟨m, member, standing⟩ := exists_standing (target_alone thread p) played
  have launched := standing.launched course.started
  have detached := (standing.attended.awaited course.awaited).1
  have whole : ¬ m.profiler.session.run.phase.Broken := by
    intro broken
    obtain ⟨message, broke⟩ := exists_broke (target_alone thread p) played member broken
    exact unbroken message broke
  rw [member, Option.bind_some, launched.summary, detached]
  exact Option.isSome_iff_exists.1 (result?_of_isOver (launched.finished detached) whole)

end Runs

end BurstProfiler.Profiler
