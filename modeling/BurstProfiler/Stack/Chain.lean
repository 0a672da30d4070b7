import BurstProfiler.Stack.Walk

/-! Chains of frame records, without a bound on their length. -/

set_option autoImplicit false

namespace BurstProfiler.Stack

/-- A frame pointer with a record in place, readable and with a return address. -/
def IsLink (memory : RecordMemory) (sp fp : UInt64) (record : Record) : Prop :=
  isPlace sp fp = true ∧ memory fp = some record ∧ record.returnAddress ≠ 0

theorem IsLink.unique {memory : RecordMemory} {sp fp : UInt64} {record other : Record}
    (first : IsLink memory sp fp record) (second : IsLink memory sp fp other) : record = other :=
  Option.some.inj (first.2.1.symm.trans second.2.1)

/-- The return addresses of the longest chain of links from a frame pointer on, in which each
link lies above the one before. -/
inductive Chain (memory : RecordMemory) (sp : UInt64) : UInt64 → List UInt64 → Prop where
  | none {fp : UInt64} : (¬ ∃ record, IsLink memory sp fp record) → Chain memory sp fp []
  | last {fp : UInt64} {record : Record} : IsLink memory sp fp record → record.next ≤ fp →
      Chain memory sp fp [record.returnAddress]
  | next {fp : UInt64} {record : Record} {rest : List UInt64} : IsLink memory sp fp record →
      fp < record.next → Chain memory sp record.next rest →
      Chain memory sp fp (record.returnAddress :: rest)

theorem Chain.unique {memory : RecordMemory} {sp fp : UInt64} {xs ys : List UInt64}
    (first : Chain memory sp fp xs) (second : Chain memory sp fp ys) : xs = ys := by
  induction first generalizing ys with
  | none no =>
    cases second with
    | none => rfl
    | last link => exact absurd ⟨_, link⟩ no
    | next link => exact absurd ⟨_, link⟩ no
  | last link low =>
    cases second with
    | none no => exact absurd ⟨_, link⟩ no
    | last other => rw [link.unique other]
    | next other up => exact absurd (link.unique other ▸ up) (UInt64.not_lt.2 low)
  | next link up _ ih =>
    cases second with
    | none no => exact absurd ⟨_, link⟩ no
    | last other low => exact absurd (link.unique other ▸ up) (UInt64.not_lt.2 low)
    | next other _ rest =>
      cases link.unique other
      rw [ih rest]

end BurstProfiler.Stack
