import BurstProfiler.Proofs.Schedule.CutOff

/-! A session depends on nothing around it. What it appends to a store is the same whatever the
store holds, its run is the same whatever its sink, and a callback is handed what a store would
have got. -/

set_option autoImplicit false

namespace BurstProfiler.Schedule

namespace Session

def appends (s : Session) (event : Event) : List Profile :=
  match event, s.run.phase, s.sink with
  | .published, .publishing _ profile _, .pending => [profile]
  | _, _, _ => []

def hands (s : Session) (event : Event) : List (List Profile) :=
  match event, s.sink with
  | .completed, .custom batch => [batch]
  | _, _ => []

theorem deliver_store (s : Session) (store : PendingStore) (event : Event) :
    (s.deliver store event).2 = ⟨store.profiles ++ s.appends event⟩ := by
  have nothing : store = ⟨store.profiles ++ []⟩ := by rw [List.append_nil]
  obtain ⟨params, ⟨phase, state, summary⟩, sink, flag, delivered⟩ := s
  cases event with
  | published =>
    cases phase with
    | publishing b profile interrupted =>
      cases sink with
      | pending => rfl
      | custom batch => exact nothing
    | _ => exact nothing
  | completed => cases sink <;> exact nothing
  | _ => exact nothing

theorem deliver_delivered (s : Session) (store : PendingStore) (event : Event) :
    (s.deliver store event).1.delivered = s.delivered ++ s.hands event := by
  have nothing : s.delivered = s.delivered ++ [] := (List.append_nil _).symm
  obtain ⟨params, ⟨phase, state, summary⟩, sink, flag, delivered⟩ := s
  cases event with
  | published => cases phase <;> exact nothing
  | completed =>
    cases sink with
    | pending => exact nothing
    | custom batch => rfl
  | _ => exact nothing

theorem deliver_session (s : Session) (store other : PendingStore) (event : Event) :
    (s.deliver store event).1 = (s.deliver other event).1 := by
  obtain ⟨params, ⟨phase, state, summary⟩, sink, flag, delivered⟩ := s
  cases event with
  | published => cases phase <;> cases sink <;> rfl
  | completed => cases sink <;> rfl
  | _ => rfl

theorem step?_delivered {s t : Session} {store after : PendingStore} {event : Event}
    (stepped : s.step? store event = some (t, after)) :
    t.delivered = s.delivered ++ s.hands event ∧
      after.profiles = store.profiles ++ s.appends event := by
  obtain ⟨-, run, -, rfl, rfl⟩ := step_of_step? stepped
  exact ⟨deliver_delivered s store event,
    congrArg PendingStore.profiles (deliver_store s store event)⟩

theorem step?_elsewhere {s t : Session} {store after : PendingStore} {event : Event}
    (stepped : s.step? store event = some (t, after)) (other : PendingStore) :
    s.step? other event = some (t, ⟨other.profiles ++ s.appends event⟩) := by
  unfold step? at stepped ⊢
  split at stepped
  · rename_i agrees
    obtain ⟨run, possible, same⟩ := Option.map_eq_some_iff.1 stepped
    cases same
    rw [if_pos agrees, possible, Option.map_some, deliver_session s other store, deliver_store]
  · cases stepped

/-- Two sessions are at one point of one run. -/
structure SameRun (s t : Session) : Prop where
  params : s.params = t.params
  run : s.run = t.run
  flag : s.stopRequested = t.stopRequested

theorem SameRun.move {s s' t : Session} {store after : PendingStore} {move : Move}
    (same : SameRun s s') (moved : s.move? store move = some (t, after)) (other : PendingStore) :
    ∃ t' after', s'.move? other move = some (t', after') ∧ SameRun t t' := by
  cases move with
  | requestStop =>
    cases moved
    exact ⟨_, _, rfl, same.params, same.run, rfl⟩
  | event event =>
    have agreed : s.agrees event = s'.agrees event := by
      unfold agrees
      rw [same.flag]
    simp only [move?, step?] at moved ⊢
    rw [same.run, same.params, agreed] at moved
    split at moved
    · rename_i agrees
      obtain ⟨run, possible, made⟩ := Option.map_eq_some_iff.1 moved
      cases made
      rw [if_pos agrees, possible]
      refine ⟨_, _, rfl, ?_, rfl, ?_⟩
      · exact (deliver_params s store event).trans
          (same.params.trans (deliver_params s' other event).symm)
      · exact (deliver_stopRequested s store event).trans
          (same.flag.trans (deliver_stopRequested s' other event).symm)
    · cases moved

/-- A history of a session is one of every session with the same run, whatever its sink. -/
theorem SameRun.replay? {s s' t : Session} {store after : PendingStore} {moves : List Move}
    (same : SameRun s s') (played : s.replay? store moves = some (t, after))
    (other : PendingStore) :
    ∃ t' after', s'.replay? other moves = some (t', after') ∧ SameRun t t' := by
  induction moves generalizing s s' store other with
  | nil =>
    cases played
    exact ⟨s', other, rfl, same⟩
  | cons move rest ih =>
    unfold Session.replay? at played
    split at played
    · cases played
    · rename_i u mid moved
      obtain ⟨u', mid', moved', same'⟩ := same.move moved other
      obtain ⟨t', after', played', same''⟩ := ih same' played mid'
      refine ⟨t', after', ?_, same''⟩
      rw [Session.replay?, moved']
      exact played'

theorem sameRun_fresh (p : Params) (sink other : Sink) :
    SameRun (.fresh p sink) (.fresh p other) := ⟨rfl, rfl, rfl⟩

end Session

/-- The profile of a burst that is over and about to be published. -/
def Phase.unpublished : Phase → List Profile
  | .publishing _ profile _ => [profile]
  | _ => []

theorem Phase.MayBreak.unpublished {phase : Phase} (may_break : phase.MayBreak) :
    phase.unpublished = [] := by
  cases phase with
  | publishing b profile interrupted => exact may_break.elim
  | _ => rfl

theorem Run.Fits.bursts_eq {p : Params} {j : Journal} {r : Run} (h : r.Fits p j)
    (whole : ¬ r.phase.Broken) :
    j.bursts.map (BurstEntry.profile p) =
      publishedProfiles p j r.summary ++ r.phase.unpublished := by
  have all : r.phase.unpublished = [] → r.summary.profiles = j.bursts.length →
      j.bursts.map (BurstEntry.profile p) =
        publishedProfiles p j r.summary ++ r.phase.unpublished := by
    intro nothing length
    rw [nothing, publishedProfiles, length, List.take_length, List.append_nil]
  have fits := h.phase
  cases at_phase : r.phase with
  | creating =>
    rw [at_phase] at fits all
    obtain ⟨-, -, bursts, -, blank⟩ := fits
    exact all rfl (by rw [bursts, blank]; rfl)
  | awaitingBurst b | starting b | awaitingSlot recording | capturing recording
  | closing recording interrupted =>
    rw [at_phase] at fits all
    exact all rfl (fits.1.profiles.trans fits.1.length.symm)
  | publishing b profile interrupted =>
    rw [at_phase] at fits
    obtain ⟨earlier, e, bursts, at_burst, -, rfl, -⟩ := fits
    have length : r.summary.profiles = earlier.length :=
      at_burst.profiles.trans at_burst.length.symm
    rw [publishedProfiles, bursts, length, List.take_left, List.map_append]
    rfl
  | completing | ended =>
    rw [at_phase] at fits all
    obtain ⟨-, idled | settled⟩ := fits
    · exact all rfl (by rw [idled.bursts, idled.summary]; rfl)
    · exact all rfl settled.profiles
  | broken message => exact absurd ⟨message, at_phase⟩ whole

-- A run does not break off between the end of a burst and its publication.
theorem bursts_eq_published {p : Params} {sink : Sink} {store after : PendingStore}
    {moves : List Move} {t : Session}
    (played : (Session.fresh p sink).replay? store moves = some (t, after)) :
    (Journal.ofMoves moves).bursts.map (BurstEntry.profile p) =
      publishedProfiles p (.ofMoves moves) t.run.summary ++ t.run.phase.unpublished := by
  induction moves using List.reverseRecOn generalizing t after with
  | nil =>
    cases played
    rfl
  | append_singleton moves move ih =>
    obtain ⟨u, mid, earlier, moved⟩ := Session.replay?_concat played
    have fits := Session.fits_replay? played
    rw [Journal.ofMoves, List.foldl_append] at fits ⊢
    cases move with
    | requestStop =>
      cases moved
      have before := ih earlier
      exact before
    | event event =>
      obtain ⟨-, run, step, rfl, -⟩ := Session.step_of_step? moved
      by_cases broken : run.phase.Broken
      · obtain ⟨message, rfl, may_break, rfl⟩ := step.event_of_broken broken
        have before := ih earlier
        rw [may_break.unpublished] at before
        exact before
      · exact fits.run.bursts_eq broken

/-- Whatever its sink, a run could have had a store of its own. -/
theorem exists_solo {p : Params} {sink : Sink} {store after : PendingStore} {moves : List Move}
    {t : Session} (played : (Session.fresh p sink).replay? store moves = some (t, after)) :
    ∃ s stored, (Session.fresh p .pending).replay? .empty moves = some (s, stored) ∧
      s.run = t.run := by
  obtain ⟨s, stored, solo, same⟩ :=
    (Session.sameRun_fresh p sink .pending).replay? played .empty
  exact ⟨s, stored, solo, same.run.symm⟩

section Solo

variable {p : Params} {moves : List Move} {s t : Session} {stored after : PendingStore}

theorem solo_profiles
    (solo : (Session.fresh p .pending).replay? .empty moves = some (s, stored)) :
    stored.profiles = publishedProfiles p (.ofMoves moves) s.run.summary :=
  (Session.fits_replay? solo).handing.2.1

/-- A store has the profile of every burst that is over, but for the one that is just being
published. -/
theorem bursts_eq_stored
    (solo : (Session.fresh p .pending).replay? .empty moves = some (s, stored)) :
    (Journal.ofMoves moves).bursts.map (BurstEntry.profile p) =
      stored.profiles ++ s.run.phase.unpublished := by
  rw [solo_profiles solo]
  exact bursts_eq_published solo

/-- A callback is handed at the end what a store would have got by then. -/
theorem delivered_eq_stored
    (played : (Session.fresh p (.custom [])).replay? .empty moves = some (t, after))
    (solo : (Session.fresh p .pending).replay? .empty moves = some (s, stored))
    (same : s.run = t.run) :
    after = .empty ∧
      t.delivered = if t.run.result?.isSome then [stored.profiles] else [] := by
  obtain ⟨-, untouched, delivered⟩ := (Session.fits_replay? played).handing
  refine ⟨untouched, delivered.trans ?_⟩
  rw [solo_profiles solo, same]
  rfl

end Solo

end BurstProfiler.Schedule
