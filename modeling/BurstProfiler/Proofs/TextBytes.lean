import BurstProfiler.Proofs.LossyPaths

/-! Texts and their bytes. A text is read back from its bytes as it was, and texts stand in the
order of their bytes. -/

set_option autoImplicit false

namespace BurstProfiler.Text

theorem utf8EncodeChar_cases (c : Char) :
    (c.toNat < 128 ∧ String.utf8EncodeChar c = [.ofNat c.toNat]) ∨
    (128 ≤ c.toNat ∧ c.toNat < 2048 ∧
      String.utf8EncodeChar c = [.ofNat (c.toNat / 64 + 192), .ofNat (c.toNat % 64 + 128)]) ∨
    (2048 ≤ c.toNat ∧ c.toNat < 65536 ∧ (c.toNat < 55296 ∨ 57343 < c.toNat) ∧
      String.utf8EncodeChar c = [.ofNat (c.toNat / 4096 + 224),
        .ofNat (c.toNat / 64 % 64 + 128), .ofNat (c.toNat % 64 + 128)]) ∨
    (65536 ≤ c.toNat ∧ c.toNat < 1114112 ∧
      String.utf8EncodeChar c = [.ofNat (c.toNat / 262144 + 240),
        .ofNat (c.toNat / 4096 % 64 + 128), .ofNat (c.toNat / 64 % 64 + 128),
        .ofNat (c.toNat % 64 + 128)]) := by
  have value : c.val.toNat = c.toNat := rfl
  have valid : c.toNat < 55296 ∨ 57343 < c.toNat ∧ c.toNat < 1114112 := c.valid
  unfold String.utf8EncodeChar
  simp only [value]
  split
  · exact .inl ⟨by omega, rfl⟩
  · split
    · have lead : c.toNat / 64 % 32 = c.toNat / 64 := Nat.mod_eq_of_lt (by omega)
      rw [lead]
      exact .inr (.inl ⟨by omega, by omega, rfl⟩)
    · split
      · have lead : c.toNat / 4096 % 16 = c.toNat / 4096 := Nat.mod_eq_of_lt (by omega)
        rw [lead]
        exact .inr (.inr (.inl ⟨by omega, by omega, by omega, rfl⟩))
      · have lead : c.toNat / 262144 % 8 = c.toNat / 262144 := Nat.mod_eq_of_lt (by omega)
        rw [lead]
        exact .inr (.inr (.inr ⟨by omega, by omega, rfl⟩))

theorem toNat_byte {n : Nat} (small : n < 256) : (UInt8.ofNat n).toNat = n := by
  rw [UInt8.toNat_ofNat']
  exact Nat.mod_eq_of_lt small

theorem isContinuation_byte (n : Nat) : isContinuation (.ofNat (n % 64 + 128)) = true := by
  have value : (UInt8.ofNat (n % 64 + 128)).toNat = n % 64 + 128 := toNat_byte (by omega)
  simp only [isContinuation, UInt8.le_iff_toNat_le, value, UInt8.reduceToNat, Bool.and_eq_true,
    decide_eq_true_eq]
  omega

theorem low6_byte (n : Nat) : low6 (.ofNat (n % 64 + 128)) = n % 64 := by
  rw [low6, toNat_byte (by omega)]
  omega

-- The second byte of no character falls under what its lead excludes.
theorem secondByteFits_byte {lead second : Nat} (small : lead < 256)
    (overlong : lead = 224 → 32 ≤ second % 64) (surrogate : lead = 237 → second % 64 < 32)
    (overlong' : lead = 240 → 16 ≤ second % 64) (large : lead = 244 → second % 64 < 16) :
    secondByteFits (.ofNat lead) (.ofNat (second % 64 + 128)) = true := by
  have first : (UInt8.ofNat lead).toNat = lead := toNat_byte small
  have value : (UInt8.ofNat (second % 64 + 128)).toNat = second % 64 + 128 := toNat_byte (by omega)
  unfold secondByteFits
  rw [isContinuation_byte]
  simp only [beq_iff_eq, ← UInt8.toNat_inj, UInt8.le_iff_toNat_le, first, value,
    UInt8.reduceToNat]
  repeat' split
  all_goals simp only [Bool.and_eq_true, decide_eq_true_eq]
  all_goals omega

theorem firstPiece_encode (c : Char) (more : List UInt8) :
    ∃ lead rest, String.utf8EncodeChar c = lead :: rest ∧
      firstPiece lead (rest ++ more) = (.char c, rest.length) := by
  rcases utf8EncodeChar_cases c with
    ⟨small, bytes⟩ | ⟨low, high, bytes⟩ | ⟨low, high, valid, bytes⟩ | ⟨low, high, bytes⟩
  · have value : (UInt8.ofNat c.toNat).toNat = c.toNat := toNat_byte (by omega)
    refine ⟨_, _, bytes, ?_⟩
    rw [firstPiece_ascii (by omega), value, Char.ofNat_toNat]
    rfl
  · have value : (UInt8.ofNat (c.toNat / 64 + 192)).toNat = c.toNat / 64 + 192 :=
      toNat_byte (by omega)
    have two : sequenceLength (.ofNat (c.toNat / 64 + 192)) = 2 := by
      have lengths := sequenceLength_cases (.ofNat (c.toNat / 64 + 192))
      rw [value] at lengths
      omega
    have number : (c.toNat / 64 + 192) % 32 * 64 + c.toNat % 64 = c.toNat := by omega
    refine ⟨_, _, bytes, ?_⟩
    simp only [firstPiece, two, List.cons_append, isContinuation_byte, if_true, value, low6_byte,
      number, Char.ofNat_toNat, List.length_singleton]
  · have value : (UInt8.ofNat (c.toNat / 4096 + 224)).toNat = c.toNat / 4096 + 224 :=
      toNat_byte (by omega)
    have three : sequenceLength (.ofNat (c.toNat / 4096 + 224)) = 3 := by
      have lengths := sequenceLength_cases (.ofNat (c.toNat / 4096 + 224))
      rw [value] at lengths
      omega
    have fits : secondByteFits (.ofNat (c.toNat / 4096 + 224))
        (.ofNat (c.toNat / 64 % 64 + 128)) = true :=
      secondByteFits_byte (by omega) (by omega) (by omega) (by omega) (by omega)
    have number : ((c.toNat / 4096 + 224) % 16 * 64 + c.toNat / 64 % 64) * 64 + c.toNat % 64 =
        c.toNat := by omega
    refine ⟨_, _, bytes, ?_⟩
    simp only [firstPiece, three, List.cons_append, fits, isContinuation_byte, if_true, value,
      low6_byte, number, Char.ofNat_toNat, List.length_cons, List.length_nil]
  · have value : (UInt8.ofNat (c.toNat / 262144 + 240)).toNat = c.toNat / 262144 + 240 :=
      toNat_byte (by omega)
    have four : sequenceLength (.ofNat (c.toNat / 262144 + 240)) = 4 := by
      have lengths := sequenceLength_cases (.ofNat (c.toNat / 262144 + 240))
      rw [value] at lengths
      omega
    have fits : secondByteFits (.ofNat (c.toNat / 262144 + 240))
        (.ofNat (c.toNat / 4096 % 64 + 128)) = true :=
      secondByteFits_byte (by omega) (by omega) (by omega) (by omega) (by omega)
    have number : (((c.toNat / 262144 + 240) % 8 * 64 + c.toNat / 4096 % 64) * 64 +
        c.toNat / 64 % 64) * 64 + c.toNat % 64 = c.toNat := by omega
    refine ⟨_, _, bytes, ?_⟩
    simp only [firstPiece, four, List.cons_append, fits, isContinuation_byte, if_true, value,
      low6_byte, number, Char.ofNat_toNat, List.length_cons, List.length_nil]

theorem encodeUtf8_cons (c : Char) (rest : List Char) :
    encodeUtf8 (c :: rest) = String.utf8EncodeChar c ++ encodeUtf8 rest :=
  List.flatMap_cons

theorem lossyText_encodeUtf8 (text : List Char) : lossyText (encodeUtf8 text) = text := by
  induction text with
  | nil =>
    unfold lossyText encodeUtf8
    rw [List.flatMap_nil, decodeUtf8]
    rfl
  | cons c rest ih =>
    obtain ⟨lead, more, bytes, piece⟩ := firstPiece_encode c (encodeUtf8 rest)
    have start : encodeUtf8 (c :: rest) = lead :: (more ++ encodeUtf8 rest) := by
      rw [encodeUtf8_cons, bytes]
      rfl
    rw [start, lossyText, decodeUtf8, piece, List.drop_left, List.map_cons]
    exact congrArg (c :: ·) ih

theorem cons_byte_lt {m n : Nat} {as bs : List UInt8} (small : n < 256) (least : m ≤ n)
    (rest : m = n → as < bs) : UInt8.ofNat m :: as < UInt8.ofNat n :: bs := by
  rw [List.cons_lt_cons_iff]
  rcases Nat.lt_or_eq_of_le least with less | same
  · left
    rw [UInt8.lt_iff_toNat_lt, toNat_byte (by omega), toNat_byte small]
    exact less
  · exact .inr ⟨congrArg UInt8.ofNat same, rest same⟩

-- A smaller character has smaller bytes, whatever stands behind. The leads tell lengths apart;
-- under one lead the first byte that differs decides.
theorem encode_append_lt {a b : Char} (less : a < b) (as bs : List UInt8) :
    String.utf8EncodeChar a ++ as < String.utf8EncodeChar b ++ bs := by
  have smaller : a.toNat < b.toNat := less
  rcases utf8EncodeChar_cases a with ⟨small, bytes⟩ | ⟨low, high, bytes⟩ | ⟨low, high, -, bytes⟩ |
    ⟨low, high, bytes⟩ <;>
  rcases utf8EncodeChar_cases b with ⟨small', bytes'⟩ | ⟨low', high', bytes'⟩ |
    ⟨low', high', -, bytes'⟩ | ⟨low', high', bytes'⟩
  all_goals try omega
  all_goals
    rw [bytes, bytes']
    simp only [List.cons_append, List.nil_append]
  all_goals
    refine cons_byte_lt (by omega) (by omega) fun lead => ?_
  all_goals try omega
  all_goals
    refine cons_byte_lt (by omega) (by omega) fun second => ?_
  all_goals try omega
  all_goals
    refine cons_byte_lt (by omega) (by omega) fun third => ?_
  all_goals try omega
  all_goals
    exact cons_byte_lt (by omega) (by omega) fun fourth => by omega

theorem encodeUtf8_lt {a b : List Char} (less : a < b) : encodeUtf8 a < encodeUtf8 b := by
  induction a generalizing b with
  | nil =>
    cases b with
    | nil => exact absurd less (List.not_lt_nil [])
    | cons d bs =>
      obtain ⟨lead, rest, bytes, -⟩ := firstPiece_encode d []
      rw [encodeUtf8_cons, bytes]
      exact List.nil_lt_cons lead _
  | cons c as ih =>
    cases b with
    | nil => exact absurd less (List.not_lt_nil _)
    | cons d bs =>
      rw [encodeUtf8_cons, encodeUtf8_cons]
      rcases List.cons_lt_cons_iff.1 less with first | ⟨rfl, behind⟩
      · exact encode_append_lt first _ _
      · exact List.append_left_lt (ih behind)

end BurstProfiler.Text

namespace BurstProfiler.Path

theorem display_ofString (text : String) : (Path.ofString text).display = text := by
  have read : (Path.ofString text).lossy = text.toList := Text.lossyText_encodeUtf8 text.toList
  rw [display, read, String.ofList_toList]

end BurstProfiler.Path
