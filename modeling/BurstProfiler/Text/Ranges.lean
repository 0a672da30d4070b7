/-! Membership of a character in an ascending table of ranges. -/

set_option autoImplicit false

namespace BurstProfiler.Text

/-- Whether `n` lies in one of the ranges with positions from `low` up to but not including
`high`. The middle range halves the search. -/
def searchRanges (ranges : Array (Nat × Nat)) (n : Nat) (low high : Nat) : Bool :=
  if low < high then
    let middle := (low + high) / 2
    match ranges[middle]? with
    | none => false
    | some (first, last) =>
      if n < first then searchRanges ranges n low middle
      else if last < n then searchRanges ranges n (middle + 1) high
      else true
  else false
  termination_by high - low

def inRanges (ranges : Array (Nat × Nat)) (c : Char) : Bool :=
  searchRanges ranges c.toNat 0 ranges.size

end BurstProfiler.Text
