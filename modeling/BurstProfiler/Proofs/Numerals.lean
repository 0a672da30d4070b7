import BurstProfiler.Number.Binary64

/-! Numbers read back from their digits, in any radix up to sixteen and with zeros in front, and
the characters that numbers are written with. -/

set_option autoImplicit false

namespace BurstProfiler.Number

section Digits

variable {radix limit n : Nat}

theorem mem_toDigits {c : Char} (large : 1 < radix) (member : c ∈ Nat.toDigits radix n) :
    ∃ d < radix, c = d.digitChar := by
  induction n using Nat.strongRecOn with
  | ind n ih =>
    by_cases small : n < radix
    · rw [Nat.toDigits_of_lt_base small] at member
      exact ⟨n, small, List.mem_singleton.1 member⟩
    · rw [Nat.toDigits_of_base_le large (by omega)] at member
      rcases List.mem_append.1 member with front | last
      · exact ih (n / radix) (Nat.div_lt_self (by omega) large) front
      · exact ⟨n % radix, Nat.mod_lt n (by omega), List.mem_singleton.1 last⟩

theorem digit?_digitChar {d : Nat} (most : radix ≤ 16) (small : d < radix) :
    digit? radix d.digitChar = some d := by
  have values : ∀ d < 16, digit? 16 d.digitChar = some d := by decide
  have value := values d (by omega)
  unfold digit? at value ⊢
  exact Option.filter_eq_some_iff.2 ⟨(Option.filter_eq_some_iff.1 value).1, decide_eq_true small⟩

theorem readDigits_append {outside : IntegerError} {value w : Nat} {first : List Char}
    (rest : List Char) (read : readDigits radix limit outside value first = .ok w) :
    readDigits radix limit outside value (first ++ rest) =
      readDigits radix limit outside w rest := by
  induction first generalizing value with
  | nil =>
    cases read
    rfl
  | cons c first ih =>
    rw [readDigits] at read
    rw [List.cons_append, readDigits]
    split at read
    · cases read
    · split at read
      · rename_i fits
        rw [if_pos fits, ih read]
      · cases read

theorem readDigits_digitChar {outside : IntegerError} {value d : Nat} (most : radix ≤ 16)
    (small : d < radix) (fits : value * radix + d ≤ limit) :
    readDigits radix limit outside value [d.digitChar] = .ok (value * radix + d) := by
  simp only [readDigits, digit?_digitChar most small, if_pos fits]

-- The induction is on the number, which loses its last digit.
theorem readDigits_toDigits {outside : IntegerError} (large : 1 < radix) (most : radix ≤ 16)
    (fits : n ≤ limit) : readDigits radix limit outside 0 (Nat.toDigits radix n) = .ok n := by
  induction n using Nat.strongRecOn with
  | ind n ih =>
    by_cases small : n < radix
    · rw [Nat.toDigits_of_lt_base small]
      have read : readDigits radix limit outside 0 [n.digitChar] = .ok (0 * radix + n) :=
        readDigits_digitChar most small (by omega)
      rw [read, Nat.zero_mul, Nat.zero_add]
    · have front := ih (n / radix) (Nat.div_lt_self (by omega) large)
        (Nat.le_trans (Nat.div_le_self n radix) fits)
      have whole : n / radix * radix + n % radix = n := Nat.div_add_mod' n radix
      rw [Nat.toDigits_of_base_le large (by omega), readDigits_append _ front,
        readDigits_digitChar most (Nat.mod_lt n (by omega)) (by omega), whole]

theorem readDigits_zeros {outside : IntegerError} (large : 0 < radix) (most : radix ≤ 16)
    (zeros : Nat) (rest : List Char) :
    readDigits radix limit outside 0 (List.replicate zeros '0' ++ rest) =
      readDigits radix limit outside 0 rest := by
  induction zeros with
  | zero => rfl
  | succ zeros ih =>
    have zero : readDigits radix limit outside 0 ['0'] = .ok (0 * radix + 0) :=
      readDigits_digitChar most large (by omega)
    rw [Nat.zero_mul] at zero
    rw [List.replicate_succ, List.cons_append, ← List.singleton_append, readDigits_append _ zero,
      ih]

theorem readUnsigned_of_digits {c : Char} {rest : List Char} (digit : c ≠ '+') :
    readUnsigned radix limit (c :: rest) = readDigits radix limit .tooLarge 0 (c :: rest) := by
  unfold readUnsigned
  split
  · rename_i none
    cases none
  · rename_i sign
    cases sign
    exact absurd rfl digit
  · rename_i sign
    cases sign
    exact absurd rfl digit
  · rfl

theorem readUnsigned_zeros (large : 1 < radix) (most : radix ≤ 16) (fits : n ≤ limit)
    (zeros : Nat) :
    readUnsigned radix limit (List.replicate zeros '0' ++ Nat.toDigits radix n) = .ok n := by
  have unsigned : ∀ d < 16, d.digitChar ≠ '+' := by decide
  obtain ⟨c, rest, digits⟩ := List.exists_cons_of_ne_nil
    (List.append_ne_nil_of_right_ne_nil (List.replicate zeros '0')
      (Nat.toDigits_ne_nil : Nat.toDigits radix n ≠ []))
  have digit : c ≠ '+' := by
    rcases List.mem_append.1 (digits ▸ List.mem_cons_self : c ∈ _) with zero | member
    · rw [List.eq_of_mem_replicate zero]
      decide
    · obtain ⟨d, small, rfl⟩ := mem_toDigits large member
      exact unsigned d (by omega)
  rw [digits, readUnsigned_of_digits digit, ← digits, readDigits_zeros (by omega) most]
  exact readDigits_toDigits large most fits

theorem readUnsigned_toDigits (large : 1 < radix) (most : radix ≤ 16) (fits : n ≤ limit) :
    readUnsigned radix limit (Nat.toDigits radix n) = .ok n :=
  readUnsigned_zeros large most fits 0

end Digits

section Characters

variable {c : Char}

theorem mem_toDigits_ten {n : Nat} (member : c ∈ Nat.toDigits 10 n) : c ∈ "0123456789".toList := by
  have digits : ∀ d < 10, d.digitChar ∈ "0123456789".toList := by decide
  obtain ⟨d, small, rfl⟩ := mem_toDigits (by decide) member
  exact digits d small

theorem mem_toString_int {n : Int} (member : c ∈ (toString n).toList) :
    c ∈ "-0123456789".toList := by
  cases n with
  | ofNat n =>
    have unsigned : (toString (Int.ofNat n)).toList = Nat.toDigits 10 n := String.toList_ofList
    rw [unsigned] at member
    exact List.mem_cons_of_mem '-' (mem_toDigits_ten member)
  | negSucc n =>
    have signed : (toString (Int.negSucc n)).toList = '-' :: Nat.toDigits 10 (n + 1) := by
      change ("-" ++ String.ofList (Nat.toDigits 10 (n + 1))).toList = _
      simp
    rw [signed] at member
    rcases List.mem_cons.1 member with rfl | digits
    · exact List.mem_cons_self
    · exact List.mem_cons_of_mem '-' (mem_toDigits_ten digits)

theorem mem_pointedText {places n : Nat} (member : c ∈ pointedText places n) :
    c ∈ "0123456789.".toList := by
  have within : "0123456789".toList.Sublist "0123456789.".toList := by decide
  have padded : ∀ zeros, c ∈ List.replicate zeros '0' ++ Nat.toDigits 10 n →
      c ∈ "0123456789.".toList := by
    intro zeros member
    rcases List.mem_append.1 member with zero | digits
    · rw [List.eq_of_mem_replicate zero]
      decide
    · exact within.subset (mem_toDigits_ten digits)
  unfold pointedText at member
  dsimp only at member
  split at member
  · exact padded _ member
  · rcases List.mem_append.1 member with before | behind
    · exact padded _ (List.mem_of_mem_take before)
    · rcases List.mem_cons.1 behind with rfl | behind
      · decide
      · exact padded _ (List.mem_of_mem_drop behind)

theorem mem_fixedText {places : Nat} {x : Binary64} (member : c ∈ x.fixedText places) :
    c ∈ "0123456789.-infNaN".toList := by
  have within : ∀ text ∈ ["0123456789.", "inf", "NaN"],
      text.toList.Sublist "0123456789.-infNaN".toList := by decide
  have signed : ∀ (negative : Bool) (text : List Char),
      c ∈ (if negative then '-' :: text else text) → c = '-' ∨ c ∈ text := by
    intro negative text member
    cases negative with
    | true => exact List.mem_cons.1 member
    | false => exact .inr member
  unfold Binary64.fixedText at member
  dsimp only at member
  split at member
  · rcases signed _ _ member with rfl | number
    · decide
    · exact (within "0123456789." (by decide)).subset (mem_pointedText number)
  · rcases signed _ _ member with rfl | letters
    · decide
    · exact (within "inf" (by decide)).subset letters
  · exact (within "NaN" (by decide)).subset member

end Characters

end BurstProfiler.Number
