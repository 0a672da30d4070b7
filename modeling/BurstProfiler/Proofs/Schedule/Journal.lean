import BurstProfiler.Proofs.Interning
import BurstProfiler.Schedule.History

/-! What a history shows, read from its moves alone: what the factory answered, every capture in
order, and each burst with the captures made in it. A burst's profile is a matter of its entry in
the journal and the parameters. -/

set_option autoImplicit false

namespace BurstProfiler.Schedule

structure Capture where
  met : List Module
  result : Except Error Sample

namespace Capture

def sample? (c : Capture) : Option Sample := c.result.toOption

def failed (c : Capture) : Bool := c.sample?.isNone

def failedForGood (c : Capture) : Bool :=
  match c.result with
  | .ok _ => false
  | .error e => !e.isTransient

end Capture

structure BurstEntry where
  started : Instant
  captures : List Capture
  closed : Instant

namespace BurstEntry

def samples (b : BurstEntry) : List Sample := b.captures.filterMap Capture.sample?

/-- The profile of a burst: its successful captures in order, and of the modules that they and
the failed ones met each that was the first with its base address. -/
def profile (p : Params) (b : BurstEntry) : Profile where
  modules := firstByBase (b.captures.flatMap Capture.met)
  samples := b.samples
  duration := b.closed.since b.started
  period := p.samplingInterval
  preservesOrder := p.preservesOrder

def Full (p : Params) (b : BurstEntry) : Prop := b.captures.length = p.samplesPerBurst.toNat

end BurstEntry

structure Journal where
  /-- Whether the factory had a capturer, once it answered. -/
  capturer : Option Bool
  calls : Nat
  captures : List Capture
  bursts : List BurstEntry
  /-- The start and the captures of the burst that is being recorded. -/
  current : Option (Instant × List Capture)
  stopRequested : Bool

namespace Journal

def blank : Journal := ⟨none, 0, [], [], none, false⟩

def note (j : Journal) : Move → Journal
  | .event (.created available _) => { j with capturer := some available }
  | .event (.started now) => { j with calls := j.calls + 1, current := some (now, []) }
  | .event (.captured met result) =>
    { j with
      calls := j.calls + 1
      captures := j.captures ++ [⟨met, result⟩]
      current := j.current.map (fun open_ => (open_.1, open_.2 ++ [⟨met, result⟩])) }
  | .event (.closed now) =>
    { j with
      calls := j.calls + 1
      bursts := j.bursts ++ (j.current.map (fun open_ => ⟨open_.1, open_.2, now⟩)).toList
      current := none }
  | .requestStop => { j with stopRequested := true }
  | _ => j

def ofMoves (moves : List Move) : Journal := moves.foldl note blank

end Journal

/-- What the k-th capture of a run meets and answers depends on k alone. -/
def Journal.Follows (j : Journal) (script : Nat → Capture) : Prop :=
  ∀ k c, j.captures[k]? = some c → c = script k

theorem Journal.follows_of_captures {j : Journal} {script : Nat → Capture} {n : Nat}
    (h : j.captures = (List.range n).map script) : j.Follows script := by
  intro k c place
  rw [h, List.getElem?_map, Option.map_eq_some_iff] at place
  obtain ⟨i, number, rfl⟩ := place
  obtain ⟨inside, rfl⟩ := List.getElem?_eq_some_iff.1 number
  rw [List.getElem_range]

end BurstProfiler.Schedule
