import BurstProfiler.Stack.Chain
import Mathlib.Data.List.Infix

/-! What a walk finds on a stack: the return addresses of the longest trail of frame records, cut
off where there is no more room. Each link lies above the one before and below the ceiling, so the
trail ends, whatever the memory holds. -/

set_option autoImplicit false

namespace BurstProfiler.Stack

/-- Frame pointers from `fp` on. There is a link at each, and each names the next one, which lies
above it. -/
structure Trail (memory : RecordMemory) (sp fp : UInt64) (places : List UInt64) : Prop where
  starts : ∀ place, places.head? = some place → place = fp
  links : ∀ place ∈ places, ∃ record, IsLink memory sp place record
  rises : ∀ i a b, places[i]? = some a → places[i + 1]? = some b →
    a < b ∧ (memory a).map Record.next = some b

def returnsAt (memory : RecordMemory) (places : List UInt64) : List UInt64 :=
  places.filterMap (fun place => (memory place).map Record.returnAddress)

variable {memory : RecordMemory} {sp fp : UInt64} {record : Record}

theorem bounds_of_isPlace (h : isPlace sp fp = true) : sp ≤ fp ∧ fp.toNat < ceiling sp := by
  simp only [isPlace, Bool.and_eq_true, decide_eq_true_eq] at h
  exact ⟨h.1.2, h.2⟩

theorem Trail.nil : Trail memory sp fp [] :=
  ⟨nofun, fun _ member => absurd member List.not_mem_nil, nofun⟩

theorem Trail.tail {place : UInt64} {places : List UInt64}
    (h : Trail memory sp fp (place :: places)) :
    place = fp ∧ (∃ record, IsLink memory sp fp record ∧ Trail memory sp record.next places ∧
      (places ≠ [] → fp < record.next)) := by
  have same := h.starts place rfl
  obtain ⟨record, link⟩ := h.links place List.mem_cons_self
  subst same
  have named : ∀ next, places.head? = some next → place < next ∧ record.next = next := by
    intro next first
    rw [List.head?_eq_getElem?] at first
    obtain ⟨less, name⟩ := h.rises 0 place next rfl first
    rw [link.2.1, Option.map_some] at name
    exact ⟨less, Option.some.inj name⟩
  refine ⟨rfl, record, link, ⟨fun next first => (named next first).2.symm, ?_, ?_⟩, ?_⟩
  · exact fun next member => h.links next (List.mem_cons_of_mem _ member)
  · exact fun i => h.rises (i + 1)
  · intro some_more
    obtain ⟨next, first⟩ := Option.isSome_iff_exists.1 (List.isSome_head?.2 some_more)
    obtain ⟨less, name⟩ := named next first
    exact name ▸ less

theorem Trail.cons {places : List UInt64} (link : IsLink memory sp fp record)
    (up : fp < record.next) (rest : Trail memory sp record.next places) :
    Trail memory sp fp (fp :: places) := by
  refine ⟨fun place first => (Option.some.inj first).symm, ?_, ?_⟩
  · intro place member
    rcases List.mem_cons.1 member with rfl | later
    · exact ⟨record, link⟩
    · exact rest.links place later
  · intro i a b here next
    cases i with
    | zero =>
      cases here
      rw [List.getElem?_cons_succ, ← List.head?_eq_getElem?] at next
      rw [rest.starts b next, link.2.1]
      exact ⟨up, rfl⟩
    | succ i => exact rest.rises i a b here next

theorem Trail.single (link : IsLink memory sp fp record) : Trail memory sp fp [fp] := by
  refine ⟨fun place first => (Option.some.inj first).symm, ?_, nofun⟩
  intro place member
  exact List.mem_singleton.1 member ▸ ⟨record, link⟩

theorem exists_longest_of_chain {addresses : List UInt64} (chain : Chain memory sp fp addresses) :
    ∃ places, Trail memory sp fp places ∧
      (∀ other, Trail memory sp fp other → other <+: places) ∧
      returnsAt memory places = addresses := by
  induction chain with
  | none absent =>
    refine ⟨[], .nil, fun other trail => ?_, rfl⟩
    cases other with
    | nil => exact List.prefix_rfl
    | cons place rest =>
      obtain ⟨-, record, link, -⟩ := trail.tail
      exact absurd ⟨record, link⟩ absent
  | @last fp record link low =>
    refine ⟨[fp], .single link, fun other trail => ?_, ?_⟩
    · cases other with
      | nil => exact List.nil_prefix
      | cons place rest =>
        obtain ⟨rfl, found, same, -, up⟩ := trail.tail
        cases link.unique same
        have stops : rest = [] := by
          by_contra more
          exact UInt64.not_lt.2 low (up more)
        rw [stops]
    · rw [returnsAt, List.filterMap_cons, link.2.1]
      rfl
  | @next fp record rest link up _ ih =>
    obtain ⟨places, trail, longest, returns⟩ := ih
    refine ⟨fp :: places, .cons link up trail, fun other trail => ?_, ?_⟩
    · cases other with
      | nil => exact List.nil_prefix
      | cons place others =>
        obtain ⟨rfl, found, same, behind, -⟩ := trail.tail
        cases link.unique same
        exact List.cons_prefix_cons.2 ⟨rfl, longest others behind⟩
    · rw [returnsAt, List.filterMap_cons, link.2.1]
      exact congrArg (record.returnAddress :: ·) returns

-- Links rise towards the ceiling, so chains end. The induction is on the room below it.
theorem exists_chain (memory : RecordMemory) (sp fp : UInt64) :
    ∃ addresses, Chain memory sp fp addresses := by
  induction room : ceiling sp - fp.toNat using Nat.strongRecOn generalizing fp with
  | ind room ih =>
    by_cases present : ∃ record, IsLink memory sp fp record
    · obtain ⟨record, link⟩ := present
      by_cases up : fp < record.next
      · have inside := (bounds_of_isPlace link.1).2
        have above := UInt64.lt_iff_toNat_lt.1 up
        obtain ⟨rest, chain⟩ := ih (ceiling sp - record.next.toNat) (by omega) record.next rfl
        exact ⟨_, .next link up chain⟩
      · exact ⟨_, .last link (UInt64.not_lt.1 up)⟩
    · exact ⟨[], .none present⟩

theorem returnAddresses_of_link (link : IsLink memory sp fp record) (room : Nat) :
    returnAddresses memory sp (room + 1) fp =
      if record.next ≤ fp then [record.returnAddress]
      else record.returnAddress :: returnAddresses memory sp room record.next := by
  rw [returnAddresses, if_pos link.1, link.2.1]
  dsimp only
  rw [if_neg link.2.2]

theorem returnAddresses_of_none (absent : ¬ ∃ record, IsLink memory sp fp record) (room : Nat) :
    returnAddresses memory sp room fp = [] := by
  cases room with
  | zero => rfl
  | succ room =>
    rw [returnAddresses]
    split
    · rename_i place
      split
      · rfl
      · rename_i record found
        split
        · rfl
        · rename_i returns
          exact absurd ⟨record, place, found, returns⟩ absent
    · rfl

theorem Chain.returnAddresses_eq_take {addresses : List UInt64}
    (chain : Chain memory sp fp addresses) (room : Nat) :
    returnAddresses memory sp room fp = addresses.take room := by
  induction chain generalizing room with
  | none absent => rw [returnAddresses_of_none absent, List.take_nil]
  | last link low =>
    cases room with
    | zero => rfl
    | succ room => rw [returnAddresses_of_link link, if_pos low, List.take_succ_cons, List.take_nil]
  | next link up _ ih =>
    cases room with
    | zero => rfl
    | succ room =>
      rw [returnAddresses_of_link link, if_neg (UInt64.not_le.2 up), ih, List.take_succ_cons]

theorem Chain.ne_zero {addresses : List UInt64} (chain : Chain memory sp fp addresses) :
    ∀ address ∈ addresses, address ≠ 0 := by
  induction chain with
  | none absent => exact fun _ member => absurd member List.not_mem_nil
  | last link low => exact fun _ member => List.mem_singleton.1 member ▸ link.2.2
  | next link up _ ih =>
    intro address member
    rcases List.mem_cons.1 member with rfl | later
    · exact link.2.2
    · exact ih address later

theorem Chain.walk_eq_take {addresses : List UInt64} (chain : Chain memory sp fp addresses)
    (pc : UInt64) :
    walk memory pc fp sp = ((if pc = 0 then [] else [pc]) ++ addresses).take maxDepth := by
  unfold walk
  split
  · exact chain.returnAddresses_eq_take maxDepth
  · rw [chain.returnAddresses_eq_take]
    rfl

-- Only records in place are looked at.
theorem returnAddresses_congr {other : RecordMemory} (room : Nat) (fp : UInt64)
    (same : ∀ place, isPlace sp place = true → other place = memory place) :
    returnAddresses other sp room fp = returnAddresses memory sp room fp := by
  induction room generalizing fp with
  | zero => rfl
  | succ room ih =>
    rw [returnAddresses, returnAddresses]
    split
    · rename_i place
      rw [same fp place]
      simp only [ih]
    · rfl

/-- **A walk captures the longest trail.** Whatever the memory holds, there is a longest trail of
links from the frame pointer on, and the walk captures the instruction, unless it is zero, and the
return addresses along that trail, as many as there are slots. None of them is zero. Nothing
outside the records between the stack pointer and the ceiling matters. -/
theorem walk_captures_longest_trail (memory : RecordMemory) (pc fp sp : UInt64) :
    (∃ places, Trail memory sp fp places ∧
      (∀ other, Trail memory sp fp other → other <+: places) ∧
      walk memory pc fp sp =
        ((if pc = 0 then [] else [pc]) ++ returnsAt memory places).take maxDepth) ∧
    (∀ slot address, (walk memory pc fp sp)[slot]? = some address →
      slot < maxDepth ∧ address ≠ 0) ∧
    ∀ other : RecordMemory,
      (∀ place, sp ≤ place → place.toNat < ceiling sp → other place = memory place) →
      walk other pc fp sp = walk memory pc fp sp := by
  obtain ⟨addresses, chain⟩ := exists_chain memory sp fp
  obtain ⟨places, trail, longest, returns⟩ := exists_longest_of_chain chain
  refine ⟨⟨places, trail, longest, ?_⟩, ?_, ?_⟩
  · rw [returns]
    exact chain.walk_eq_take pc
  · intro slot address captured
    obtain ⟨inside, -⟩ := List.getElem?_eq_some_iff.1 captured
    refine ⟨Nat.lt_of_lt_of_le inside (length_walk_le memory pc fp sp), ?_⟩
    have member := List.mem_of_getElem? captured
    rw [chain.walk_eq_take pc] at member
    rcases List.mem_append.1 (List.mem_of_mem_take member) with first | returned
    · split at first
      · cases first
      · rename_i nonzero
        exact List.mem_singleton.1 first ▸ nonzero
    · exact chain.ne_zero address returned
  · intro other same
    have inPlace : ∀ place, isPlace sp place = true → other place = memory place := by
      intro place here
      obtain ⟨above, below⟩ := bounds_of_isPlace here
      exact same place above below
    unfold walk
    rw [returnAddresses_congr _ _ inPlace, returnAddresses_congr _ _ inPlace]

def loopingMemory : RecordMemory := fun place =>
  if place = 4096 then some ⟨4112, 5⟩ else if place = 4112 then some ⟨4096, 6⟩ else none

theorem walk_captures_longest_trail_of_loop :
    walk loopingMemory 4 4096 4096 = [4, 5, 6] ∧
      (∃ places, Trail loopingMemory 4096 4096 places ∧
        (∀ other, Trail loopingMemory 4096 4096 other → other <+: places) ∧
        walk loopingMemory 4 4096 4096 = ([4] ++ returnsAt loopingMemory places).take maxDepth) ∧
      walk (fun place => if place = 4088 then some ⟨0, 0⟩ else loopingMemory place) 4 4096 4096 =
        [4, 5, 6] := by
  have whole := walk_captures_longest_trail loopingMemory 4 4096 4096
  have captured : walk loopingMemory 4 4096 4096 = [4, 5, 6] := by decide
  refine ⟨captured, whole.1, ?_⟩
  rw [← captured]
  refine whole.2.2 _ (fun place above _ => if_neg ?_)
  rintro rfl
  exact absurd above (by decide)

end BurstProfiler.Stack
