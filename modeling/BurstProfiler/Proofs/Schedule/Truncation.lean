import BurstProfiler.Proofs.Schedule.Actions
import BurstProfiler.Proofs.Schedule.Completion

/-! A stop only truncates. Two runs with the same parameters and the same answers of the capturer,
of which nobody stops one, hand over the same profiles up to the burst that the stop cuts short;
of that burst the stopped run has a beginning. The time a burst took is not compared. -/

set_option autoImplicit false

namespace BurstProfiler.Schedule

/-- A list of profiles breaks off another, maybe within a profile. -/
structure Truncates (cut full : List Profile) : Prop where
  length : cut.length ≤ full.length
  earlier : ∀ i s f, i + 1 < cut.length → cut[i]? = some s → full[i]? = some f →
    { s with duration := f.duration } = f
  last : ∀ i s f, i + 1 = cut.length → cut[i]? = some s → full[i]? = some f →
    s.samples <+: f.samples ∧ s.modules <+: f.modules ∧ s.period = f.period ∧
      s.preservesOrder = f.preservesOrder

-- Behind pieces of one length each, a piece continues where that many elements end.
theorem getElem?_flatten_of_full {α : Type} {pieces : List (List α)} {n i : Nat} {piece : List α}
    (full : ∀ other ∈ pieces.dropLast, other.length = n) (place : pieces[i]? = some piece)
    {k : Nat} {a : α} (inside : piece[k]? = some a) : pieces.flatten[i * n + k]? = some a := by
  induction pieces generalizing i with
  | nil => cases place
  | cons head rest ih =>
    rw [List.flatten_cons]
    cases i with
    | zero =>
      cases place
      rw [Nat.zero_mul, Nat.zero_add,
        List.getElem?_append_left (List.getElem?_eq_some_iff.1 inside).1]
      exact inside
    | succ i =>
      have more : rest ≠ [] := by
        rintro rfl
        cases place
      rw [List.dropLast_cons_of_ne_nil more] at full
      have first : head.length = n := full head List.mem_cons_self
      have behind : (i + 1) * n + k = head.length + (i * n + k) := by
        rw [Nat.succ_mul, first]
        omega
      rw [behind, List.getElem?_append_right (Nat.le_add_right _ _), Nat.add_sub_cancel_left]
      exact ih (fun other member => full other (List.mem_cons_of_mem _ member)) place

theorem Accounts.capture_eq {p : Params} {j : Journal} {s : Summary} (h : Accounts p j s)
    {script : Nat → Capture} (follows : j.Follows script) {i : Nat} {e : BurstEntry}
    (place : j.bursts[i]? = some e) {k : Nat} {c : Capture} (inside : e.captures[k]? = some c) :
    c = script (i * p.samplesPerBurst.toNat + k) := by
  apply follows
  rw [← h.captures, List.flatMap_def]
  refine getElem?_flatten_of_full ?_ ?_ inside
  · intro other member
    rw [← List.map_dropLast] at member
    obtain ⟨f, earlier, rfl⟩ := List.mem_map.1 member
    exact h.full f earlier
  · rw [List.getElem?_map, place]
    rfl

-- Bursts at one place of two runs with one script: the shorter is a beginning of the longer.
theorem captures_prefix {p : Params} {j k : Journal} {s f : Summary} (short : Accounts p j s)
    (long : Accounts p k f) {script : Nat → Capture} (follows : j.Follows script)
    (follows' : k.Follows script) {i : Nat} {e e' : BurstEntry} (place : j.bursts[i]? = some e)
    (place' : k.bursts[i]? = some e') (le : e.captures.length ≤ e'.captures.length) :
    e.captures <+: e'.captures := by
  rw [List.prefix_iff_getElem]
  refine ⟨le, fun n inside => ?_⟩
  rw [short.capture_eq follows place (List.getElem?_eq_getElem inside),
    long.capture_eq follows' place' (List.getElem?_eq_getElem (Nat.lt_of_lt_of_le inside le))]

theorem BurstEntry.profile_prefix (p : Params) {e e' : BurstEntry}
    (h : e.captures <+: e'.captures) :
    (e.profile p).samples <+: (e'.profile p).samples ∧
      (e.profile p).modules <+: (e'.profile p).modules := by
  refine ⟨h.filterMap _, firstByBase_prefix ?_⟩
  obtain ⟨later, same⟩ := h
  rw [← same, List.flatMap_append]
  exact List.prefix_append _ _

theorem BurstEntry.profile_eq (p : Params) {e e' : BurstEntry} (h : e.captures = e'.captures) :
    ({ e.profile p with duration := (e'.profile p).duration } : Profile) = e'.profile p := by
  unfold BurstEntry.profile BurstEntry.samples
  rw [h]

theorem stopRequested_ofMoves {moves : List Move} {j : Journal}
    (requested : (moves.foldl Journal.note j).stopRequested = true) :
    j.stopRequested = true ∨ Move.requestStop ∈ moves := by
  induction moves generalizing j with
  | nil => exact .inl requested
  | cons move rest ih =>
    rcases ih requested with earlier | later
    · cases move with
      | requestStop => exact .inr List.mem_cons_self
      | event event =>
        refine .inl ?_
        cases event <;> exact earlier
    · exact .inr (List.mem_cons_of_mem _ later)

-- Where the script and the parameters are the same, a run that was stopped truncates one that
-- was not.
theorem Accounts.truncates {p : Params} {j k : Journal} {s f : Summary} (cut : Accounts p j s)
    (full : Accounts p k f) {script : Nat → Capture} (follows : j.Follows script)
    (follows' : k.Follows script) (unstopped : f.stopped = false) :
    Truncates (j.bursts.map (BurstEntry.profile p)) (k.bursts.map (BurstEntry.profile p)) := by
  obtain ⟨all, whole⟩ := full.unstopped.1 unstopped
  have entries : ∀ {i : Nat} {q r : Profile},
      (j.bursts.map (BurstEntry.profile p))[i]? = some q →
      (k.bursts.map (BurstEntry.profile p))[i]? = some r →
      ∃ e e', j.bursts[i]? = some e ∧ k.bursts[i]? = some e' ∧ q = e.profile p ∧
        r = e'.profile p ∧ e.captures <+: e'.captures := by
    intro i q r here there
    rw [List.getElem?_map, Option.map_eq_some_iff] at here there
    obtain ⟨e, place, rfl⟩ := here
    obtain ⟨e', place', rfl⟩ := there
    have le : e.captures.length ≤ e'.captures.length := by
      rw [whole e' (List.mem_of_getElem? place')]
      exact cut.bounded e (List.mem_of_getElem? place)
    exact ⟨e, e', place, place', rfl, rfl,
      captures_prefix cut full follows follows' place place' le⟩
  refine ⟨?_, ?_, ?_⟩
  · rw [List.length_map, List.length_map, all, cut.profiles]
    exact cut.within
  · intro i q r more here there
    obtain ⟨e, e', place, place', rfl, rfl, beginning⟩ := entries here there
    -- Bursts before the last are full in either run, so the beginning is all of it.
    have before : j.bursts.dropLast[i]? = some e := by
      rw [List.length_map] at more
      rw [List.getElem?_dropLast, if_pos (by omega)]
      exact place
    have same : e.captures.length = e'.captures.length := by
      rw [cut.full e (List.mem_of_getElem? before), whole e' (List.mem_of_getElem? place')]
    exact BurstEntry.profile_eq p (beginning.eq_of_length same)
  · intro i q r _ here there
    obtain ⟨e, e', -, -, rfl, rfl, beginning⟩ := entries here there
    obtain ⟨samples, modules⟩ := BurstEntry.profile_prefix p beginning
    exact ⟨samples, modules, rfl, rfl⟩

/-- No burst of a history is dropped: its journal has an entry for each that began, none is open,
and the captures of the entries are all that were made. -/
structure KeepsBursts (moves : List Move) : Prop where
  began : (Journal.ofMoves moves).bursts.length = (callsEnded moves).count .starting
  closed : (Journal.ofMoves moves).current = none
  captures : (Journal.ofMoves moves).bursts.flatMap BurstEntry.captures =
    (Journal.ofMoves moves).captures

theorem count_starting_burstCalls (j : Journal) :
    j.burstCalls.count .starting = j.bursts.length := by
  unfold Journal.burstCalls
  induction j.bursts with
  | nil => rfl
  | cons e rest ih =>
    simp [BurstEntry.calls, List.count_replicate, ih]

theorem keepsBursts_of_returned {p : Params} {sink : Sink} {store after : PendingStore}
    {moves : List Move} {t : Session} {s : Summary}
    (played : (Session.fresh p sink).replay? store moves = some (t, after))
    (returned : t.run.result? = some s) : KeepsBursts moves := by
  obtain ⟨ended, -⟩ := phase_of_result? returned
  have fits := (Session.fits_replay? played).run
  have whole : ¬ t.run.phase.Broken := by
    rintro ⟨message, broken⟩
    rw [ended] at broken
    cases broken
  have calls := calls_eq_callsBehind played whole
  have phase := fits.phase
  have captures := fits.captures
  rw [ended] at calls phase
  obtain ⟨current, -⟩ := phase
  rw [Journal.openCaptures, current] at captures
  constructor
  · rw [calls, Phase.callsBehind]
    simp [count_starting_burstCalls]
  · exact current
  · simpa using captures.symm

/-- **A stop only truncates.** Let one run be stopped anywhere and another with the same
parameters, factory and script not at all. When both have returned, each has handed over a profile
for every burst that it began, and the profiles of the first break off those of the second: all
but its last are the same, and the last is a beginning. A run that nobody stops returns only if
each of its deadlines is an instant; where they are, `exists_unstopped_history` gives one that
does. -/
theorem stop_truncates {p : Params} {script : Nat → Capture} {sinkFull sinkCut : Sink}
    {storeFull storeCut afterFull afterCut : PendingStore} {full cut : List Move}
    {f c : Session}
    (playedFull : (Session.fresh p sinkFull).replay? storeFull full = some (f, afterFull))
    (playedCut : (Session.fresh p sinkCut).replay? storeCut cut = some (c, afterCut))
    (returnedFull : f.run.result?.isSome) (returnedCut : c.run.result?.isSome)
    (unstopped : Move.requestStop ∉ full)
    (factory : (Journal.ofMoves full).capturer = (Journal.ofMoves cut).capturer)
    (followsFull : (Journal.ofMoves full).Follows script)
    (followsCut : (Journal.ofMoves cut).Follows script) :
    KeepsBursts full ∧ KeepsBursts cut ∧
      f.HandedOver sinkFull storeFull afterFull
        ((Journal.ofMoves full).bursts.map (BurstEntry.profile p)) ∧
      c.HandedOver sinkCut storeCut afterCut
        ((Journal.ofMoves cut).bursts.map (BurstEntry.profile p)) ∧
      Truncates ((Journal.ofMoves cut).bursts.map (BurstEntry.profile p))
        ((Journal.ofMoves full).bursts.map (BurstEntry.profile p)) := by
  obtain ⟨sFull, returnedFull⟩ := Option.isSome_iff_exists.1 returnedFull
  obtain ⟨sCut, returnedCut⟩ := Option.isSome_iff_exists.1 returnedCut
  have fitsFull := Session.fits_replay? playedFull
  have fitsCut := Session.fits_replay? playedCut
  refine ⟨keepsBursts_of_returned playedFull returnedFull,
    keepsBursts_of_returned playedCut returnedCut, fitsFull.handedOver returnedFull,
    fitsCut.handedOver returnedCut, ?_⟩
  rcases fitsCut.run.idled_or_accounts returnedCut with idled | ⟨capturerCut, accountsCut⟩
  · rw [idled.bursts]
    exact ⟨Nat.zero_le _, fun _ _ _ _ contrary => by simp at contrary,
      fun _ _ _ _ contrary => by simp at contrary⟩
  · rcases fitsFull.run.idled_or_accounts returnedFull with idled | ⟨-, accountsFull⟩
    · rw [idled.capturer, capturerCut] at factory
      cases factory
    · refine accountsCut.truncates accountsFull followsCut followsFull ?_
      have unrequested : (Journal.ofMoves full).stopRequested ≠ true := by
        intro requested
        rcases stopRequested_ofMoves requested with contrary | member
        · cases contrary
        · exact unstopped member
      exact Bool.eq_false_iff.2 (mt accountsFull.requested unrequested)

def unstoppedMoves : List Move :=
  [.event (.created true .origin), .event (.awoke false .origin), .event (.started .origin)] ++
    slotMoves 0 3 ++
    [.event (.closed .origin), .event .published, .event (.awoke false .origin),
      .event (.started .origin)] ++
    slotMoves 3 3 ++
    [.event (.closed .origin), .event .published, .event .completed]

theorem stop_truncates_interrupted :
    ∃ f afterFull c afterCut,
      (Session.fresh briefParams .pending).replay? .empty unstoppedMoves = some (f, afterFull) ∧
      (Session.fresh briefParams (.custom [])).replay? .empty interruptedMoves =
        some (c, afterCut) ∧
      f.run.result? = some ⟨2, 5, 1, 1, false, false⟩ ∧
      c.run.result? = some ⟨2, 3, 1, 1, true, false⟩ ∧
      KeepsBursts unstoppedMoves ∧ KeepsBursts interruptedMoves ∧
      f.HandedOver .pending .empty afterFull
        ((Journal.ofMoves unstoppedMoves).bursts.map (BurstEntry.profile briefParams)) ∧
      c.HandedOver (.custom []) .empty afterCut
        ((Journal.ofMoves interruptedMoves).bursts.map (BurstEntry.profile briefParams)) ∧
      Truncates ((Journal.ofMoves interruptedMoves).bursts.map (BurstEntry.profile briefParams))
        ((Journal.ofMoves unstoppedMoves).bursts.map (BurstEntry.profile briefParams)) := by
  have full : ∃ f after, (Session.fresh briefParams .pending).replay? .empty unstoppedMoves =
      some (f, after) ∧ f.run.result? = some ⟨2, 5, 1, 1, false, false⟩ := ⟨_, _, rfl, rfl⟩
  have cut : ∃ c after, (Session.fresh briefParams (.custom [])).replay? .empty interruptedMoves =
      some (c, after) ∧ c.run.result? = some ⟨2, 3, 1, 1, true, false⟩ := ⟨_, _, rfl, rfl⟩
  have factory : (Journal.ofMoves unstoppedMoves).capturer = some true := rfl
  have factory' : (Journal.ofMoves interruptedMoves).capturer = some true := rfl
  have follows : (Journal.ofMoves unstoppedMoves).Follows briefScript :=
    Journal.follows_of_captures (n := 6) rfl
  have follows' : (Journal.ofMoves interruptedMoves).Follows briefScript :=
    Journal.follows_of_captures (n := 4) rfl
  obtain ⟨f, afterFull, playedFull, returnedFull⟩ := full
  obtain ⟨c, afterCut, playedCut, returnedCut⟩ := cut
  refine ⟨f, afterFull, c, afterCut, playedFull, playedCut, returnedFull, returnedCut, ?_⟩
  refine stop_truncates playedFull playedCut (by rw [returnedFull]; rfl) (by rw [returnedCut]; rfl)
    ?_ (factory.trans factory'.symm) follows follows'
  intro contrary
  simp [unstoppedMoves, slotMoves] at contrary

end BurstProfiler.Schedule
