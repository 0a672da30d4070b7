import Mathlib.Data.List.Basic

/-! What stands at the places of a list that was added to or changed at one place. -/

set_option autoImplicit false

namespace BurstProfiler

variable {α : Type}

theorem getElem?_concat_eq_some {xs : List α} {last x : α} {k : Nat}
    (place : (xs ++ [last])[k]? = some x) : xs[k]? = some x ∨ k = xs.length ∧ x = last := by
  rw [List.getElem?_append] at place
  split at place
  · exact .inl place
  · rw [List.getElem?_singleton] at place
    split at place
    · cases place
      exact .inr ⟨by omega, rfl⟩
    · cases place

theorem getElem?_set_of_some {xs : List α} {i : Nat} {x : α} (y : α) (place : xs[i]? = some x) :
    (xs.set i y)[i]? = some y :=
  List.getElem?_set_self (List.getElem?_eq_some_iff.1 place).1

theorem getElem?_set_eq_some {xs : List α} {i j : Nat} {x y : α}
    (place : (xs.set i x)[j]? = some y) : j = i ∧ y = x ∨ j ≠ i ∧ xs[j]? = some y := by
  rw [List.getElem?_set] at place
  split at place
  · rename_i same
    split at place
    · cases place
      exact .inl ⟨same.symm, rfl⟩
    · cases place
  · rename_i other
    exact .inr ⟨Ne.symm other, place⟩

end BurstProfiler
