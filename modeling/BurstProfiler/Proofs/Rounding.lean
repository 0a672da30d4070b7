import BurstProfiler.Number.Binary64
import Mathlib.Algebra.Group.Nat.Defs

/-! Rounding to 53 binary digits. A number with so many digits that is not above another one is not
above what this is rounded to either. Two addresses whose sum leaves the signed range may be rounded
so far down that the sum of the rounded ones does not; that sum is rounded back to the end of the
range. -/

set_option autoImplicit false

namespace BurstProfiler.Number

theorem div_le_roundHalfEven (numerator denominator : Nat) :
    numerator / denominator ≤ roundHalfEven numerator denominator := by
  unfold roundHalfEven
  dsimp only
  split
  · exact Nat.le_refl _
  · split
    · exact Nat.le_succ _
    · split <;> omega

theorem roundSignificant_of_log2 {n : Nat} (top : Nat.log2 n = 62) :
    roundSignificant n = roundHalfEven n 1024 * 1024 := by
  unfold roundSignificant
  rw [top]

section Bounds

variable {q j n : Nat}

-- The unit of the larger number divides the smaller one, or else the power of two below the larger.
theorem le_roundSignificant (digits : q ≤ 2 ^ 53) (positive : 0 < n) (le : q * 2 ^ j ≤ n) :
    q * 2 ^ j ≤ roundSignificant n := by
  have kept : ∀ m, 2 ^ (Nat.log2 n - 52) ∣ m → m ≤ n → m ≤ roundSignificant n := by
    intro m divides below
    calc m = m / 2 ^ (Nat.log2 n - 52) * 2 ^ (Nat.log2 n - 52) := (Nat.div_mul_cancel divides).symm
      _ ≤ n / 2 ^ (Nat.log2 n - 52) * 2 ^ (Nat.log2 n - 52) :=
        Nat.mul_le_mul_right _ (Nat.div_le_div_right below)
      _ ≤ roundSignificant n := Nat.mul_le_mul_right _ (div_le_roundHalfEven _ _)
  by_cases fine : Nat.log2 n - 52 ≤ j
  · exact kept _ (Nat.dvd_trans (Nat.pow_dvd_pow 2 fine) (Nat.dvd_mul_left _ _)) le
  · have power : 2 ^ Nat.log2 n ≤ n := Nat.log2_self_le (Nat.ne_of_gt positive)
    calc q * 2 ^ j ≤ 2 ^ 53 * 2 ^ j := Nat.mul_le_mul_right _ digits
      _ = 2 ^ (53 + j) := (Nat.pow_add 2 53 j).symm
      _ ≤ 2 ^ Nat.log2 n := Nat.pow_le_pow_right (by decide) (by omega)
      _ ≤ roundSignificant n := kept _ (Nat.pow_dvd_pow 2 (Nat.sub_le _ _)) power

theorem log2_eq_of_bounds (least : 2 ^ 62 ≤ n) (below : n < 2 ^ 63) : Nat.log2 n = 62 := by
  have positive : n ≠ 0 := by omega
  exact (Nat.log2_eq_iff positive).2 ⟨least, below⟩

end Bounds

section Ends

variable {a b n : Nat}

-- The last numbers below the end of the range are nearer to it than to the one before.
theorem end_le_roundSignificant (near : 9_223_372_036_854_775_296 ≤ n) :
    9_223_372_036_854_775_808 ≤ roundSignificant n := by
  by_cases beyond : 9_223_372_036_854_775_808 ≤ n
  · exact @le_roundSignificant 1 63 n (by decide) (by omega) beyond
  · rw [roundSignificant_of_log2 (log2_eq_of_bounds (by omega) (by omega))]
    unfold roundHalfEven
    dsimp only
    have quotient : n / 1024 = 9_007_199_254_740_991 := by omega
    rw [quotient]
    split
    · omega
    · split
      · decide
      · decide

-- What the larger number loses, the smaller one does not.
theorem sum_near_end (large : 2 ^ 62 ≤ b) (within : b ≤ 9_223_372_036_854_775_808)
    (small : a < 2 ^ 62) (sum : 9_223_372_036_854_775_808 ≤ a + b) :
    9_223_372_036_854_775_296 ≤ roundSignificant a + roundSignificant b := by
  by_cases inside : b < 2 ^ 63
  · obtain ⟨k, r, rest, split⟩ : ∃ k r, r < 1024 ∧ b = k * 1024 + r :=
      ⟨b / 1024, b % 1024, Nat.mod_lt _ (by decide), by omega⟩
    by_cases least : r ≤ 512
    · obtain ⟨q, behind⟩ : ∃ q, q + k * 2 = 18_014_398_509_481_983 :=
        ⟨_, Nat.sub_add_cancel (by omega)⟩
      have other : q * 2 ^ 9 ≤ roundSignificant a :=
        le_roundSignificant (by omega) (by omega) (by omega)
      have down : k * 2 ^ 10 ≤ roundSignificant b :=
        le_roundSignificant (by omega) (by omega) (split ▸ Nat.le_add_right _ _)
      omega
    · have up : roundSignificant b = (k + 1) * 1024 := by
        rw [roundSignificant_of_log2 (log2_eq_of_bounds large inside)]
        unfold roundHalfEven
        dsimp only
        have quotient : b / 1024 = k := by omega
        rw [quotient, if_neg (by omega), if_pos (by omega)]
      obtain ⟨q, behind⟩ : ∃ q, q + k = 9_007_199_254_740_991 := ⟨_, Nat.sub_add_cancel (by omega)⟩
      have other : q * 2 ^ 10 ≤ roundSignificant a := by
        by_cases none : q = 0
        · rw [none, Nat.zero_mul]
          exact Nat.zero_le _
        · clear up
          exact le_roundSignificant (by omega) (by omega) (by omega)
      omega
  · have whole : 1 * 2 ^ 63 ≤ roundSignificant b :=
      le_roundSignificant (by decide) (by omega) (by omega)
    omega

/-- Where the sum of two numbers leaves the signed range, so does that of the rounded ones. -/
theorem end_le_roundSignificant_add (first : a ≤ 9_223_372_036_854_775_808)
    (second : b ≤ 9_223_372_036_854_775_808) (sum : 9_223_372_036_854_775_808 ≤ a + b) :
    9_223_372_036_854_775_808 ≤
      roundSignificant (roundSignificant a + roundSignificant b) := by
  apply end_le_roundSignificant
  have half : ∀ {n : Nat}, 2 ^ 62 ≤ n → 1 * 2 ^ 62 ≤ roundSignificant n := fun large =>
    le_roundSignificant (by decide) (by omega) (by omega)
  by_cases large : 2 ^ 62 ≤ a
  · by_cases large' : 2 ^ 62 ≤ b
    · have one := half large
      have other := half large'
      omega
    · rw [Nat.add_comm]
      exact sum_near_end large first (by omega) (by omega)
  · exact sum_near_end (by omega) second (by omega) sum

end Ends

theorem roundSigned_natCast (n : Nat) : roundSigned n = roundSignificant n := by
  unfold roundSigned
  cases n with
  | zero => rfl
  | succ n =>
    rw [Int.sign_natCast_of_ne_zero (Nat.succ_ne_zero n), Int.one_mul, Int.natAbs_natCast]

theorem roundSigned_neg (n : Int) : roundSigned (-n) = -roundSigned n := by
  unfold roundSigned
  rw [Int.sign_neg, Int.natAbs_neg, Int.neg_mul]

end BurstProfiler.Number
