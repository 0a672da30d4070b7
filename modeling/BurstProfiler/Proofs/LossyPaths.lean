import BurstProfiler.Path

/-! Paths as lossy text. A byte below 128 stands for itself and ends whatever sequence is open
before it, so the replacement of broken bytes stays between slashes: the components of the lossy
text are the lossy components, and paths that name the same place have texts that do. -/

set_option autoImplicit false

namespace BurstProfiler.Text

theorem isContinuation_ascii {b : UInt8} (ascii : b.toNat < 128) : isContinuation b = false := by
  have low : ¬ (0x80 : UInt8) ≤ b := by
    rw [UInt8.le_iff_toNat_le]
    exact Nat.not_le.2 ascii
  simp only [isContinuation, low, decide_false, Bool.false_and]

theorem secondByteFits_ascii (lead : UInt8) {b : UInt8} (ascii : b.toNat < 128) :
    secondByteFits lead b = false := by
  have low : ¬ (0x80 : UInt8) ≤ b ∧ ¬ (0x90 : UInt8) ≤ b ∧ ¬ (0xA0 : UInt8) ≤ b := by
    simp only [UInt8.le_iff_toNat_le, UInt8.reduceToNat]
    omega
  simp only [secondByteFits, low, isContinuation_ascii ascii, decide_false, Bool.false_and,
    ite_self]

-- No sequence reaches over a byte below 128.
theorem firstPiece_append_ascii (lead : UInt8) (rest : List UInt8) {a : UInt8}
    (ascii : a.toNat < 128) (more : List UInt8) :
    firstPiece lead (rest ++ a :: more) = firstPiece lead rest := by
  have first := isContinuation_ascii ascii
  have second := secondByteFits_ascii lead ascii
  unfold firstPiece
  generalize sequenceLength lead = announced
  match announced, rest with
  | 0, _ | 1, _ | _ + 5, _ => rfl
  | 2, [] => simp [first]
  | 3, [] | 4, [] => simp [second]
  | 2, _ :: _ => rfl
  | 3, [b] | 4, [b] => simp [first]
  | 3, _ :: _ :: _ => rfl
  | 4, [b, c] => simp [first]
  | 4, _ :: _ :: _ :: _ => rfl

theorem firstPiece_length_le (lead : UInt8) (rest : List UInt8) :
    (firstPiece lead rest).2 ≤ rest.length := by
  unfold firstPiece
  repeat' split
  all_goals simp

theorem sequenceLength_cases (lead : UInt8) :
    (sequenceLength lead = 1 ∧ lead.toNat < 128) ∨
      (sequenceLength lead = 0 ∧ 128 ≤ lead.toNat ∧ (lead.toNat < 194 ∨ 245 ≤ lead.toNat)) ∨
      (sequenceLength lead = 2 ∧ 194 ≤ lead.toNat ∧ lead.toNat < 224) ∨
      (sequenceLength lead = 3 ∧ 224 ≤ lead.toNat ∧ lead.toNat < 240) ∨
      (sequenceLength lead = 4 ∧ 240 ≤ lead.toNat ∧ lead.toNat < 245) := by
  unfold sequenceLength
  simp only [UInt8.lt_iff_toNat_lt, UInt8.reduceToNat]
  repeat' split
  all_goals omega

-- The second byte makes up for a lead that could stand for an overlong form.
theorem secondByte_bounds {lead b : UInt8} (h : secondByteFits lead b = true) :
    (lead.toNat = 224 → 160 ≤ b.toNat) ∧ (lead.toNat = 240 → 144 ≤ b.toNat) ∧
      128 ≤ b.toNat ∧ b.toNat < 192 := by
  unfold secondByteFits isContinuation at h
  simp only [beq_iff_eq, ← UInt8.toNat_inj, UInt8.le_iff_toNat_le, UInt8.reduceToNat] at h
  repeat' split at h
  all_goals
    simp only [Bool.and_eq_true, decide_eq_true_eq] at h
    omega

theorem firstPiece_ascii {lead : UInt8} (ascii : lead.toNat < 128) (rest : List UInt8) :
    firstPiece lead rest = (.char (Char.ofNat lead.toNat), 0) := by
  have one : sequenceLength lead = 1 := by
    have lengths := sequenceLength_cases lead
    omega
  unfold firstPiece
  rw [one]
  rfl

theorem toNat_ofNat_ascii {n : Nat} (ascii : n < 128) : (Char.ofNat n).toNat = n := by
  unfold Char.ofNat
  rw [dif_pos (.inl (by omega))]
  rfl

/-- A character outside the first 128, or the null character, for which it stands where a number
is no character. -/
def isDistant (c : Char) : Prop := c.toNat = 0 ∨ 128 ≤ c.toNat

theorem isDistant_ofNat {n : Nat} (h : 128 ≤ n) : isDistant (Char.ofNat n) := by
  unfold Char.ofNat
  by_cases valid : n.isValidChar
  · rw [dif_pos valid]
    exact .inr h
  · rw [dif_neg valid]
    exact .inl rfl

-- Longer sequences and broken ones never yield one of the first 128 characters.
theorem isDistant_firstPiece {lead : UInt8} (distant : 128 ≤ lead.toNat) (rest : List UInt8) :
    isDistant (firstPiece lead rest).1.replaced := by
  have lengths := sequenceLength_cases lead
  have broken : ∀ bytes, isDistant (Utf8Piece.broken bytes).replaced :=
    fun _ => .inr (show 128 ≤ ('\uFFFD').toNat by decide)
  unfold firstPiece
  split
  · omega
  · split
    · apply isDistant_ofNat
      omega
    · exact broken _
  · split
    · rename_i fits
      have second := secondByte_bounds fits
      split
      · exact broken _
      · split
        · apply isDistant_ofNat
          unfold low6
          omega
        · exact broken _
    · exact broken _
  · split
    · rename_i fits
      have second := secondByte_bounds fits
      split
      · exact broken _
      · split
        · split
          · exact broken _
          · split
            · apply isDistant_ofNat
              unfold low6
              omega
            · exact broken _
        · exact broken _
    · exact broken _
  · exact broken _

-- A byte below 128 occurs only as the whole encoding of its own character.
theorem eq_singleton_of_mem_encode {c : Char} {a : UInt8} (ascii : a.toNat < 128)
    (member : a ∈ String.utf8EncodeChar c) :
    c.toNat = a.toNat ∧ String.utf8EncodeChar c = [a] := by
  have value : c.val.toNat = c.toNat := rfl
  unfold String.utf8EncodeChar at member ⊢
  simp only [value] at member ⊢
  split at member
  · rename_i small
    rw [List.mem_singleton] at member
    subst member
    rw [if_pos small, UInt8.toNat_ofNat']
    exact ⟨by omega, rfl⟩
  · exfalso
    split at member
    · simp only [List.mem_cons, List.not_mem_nil, or_false] at member
      rcases member with rfl | rfl <;> rw [UInt8.toNat_ofNat'] at ascii <;> omega
    · split at member
      · simp only [List.mem_cons, List.not_mem_nil, or_false] at member
        rcases member with rfl | rfl | rfl <;> rw [UInt8.toNat_ofNat'] at ascii <;> omega
      · simp only [List.mem_cons, List.not_mem_nil, or_false] at member
        rcases member with rfl | rfl | rfl | rfl <;> rw [UInt8.toNat_ofNat'] at ascii <;> omega

def lossyBytes (bytes : List UInt8) : List UInt8 := encodeUtf8 (lossyText bytes)

theorem lossyBytes_cons (lead : UInt8) (rest : List UInt8) :
    lossyBytes (lead :: rest) = String.utf8EncodeChar (firstPiece lead rest).1.replaced ++
      lossyBytes (rest.drop (firstPiece lead rest).2) := by
  unfold lossyBytes lossyText encodeUtf8
  rw [decodeUtf8, List.map_cons, List.flatMap_cons]

theorem lossyBytes_nil : lossyBytes [] = [] := by
  unfold lossyBytes lossyText encodeUtf8
  rw [decodeUtf8]
  rfl

theorem lossyBytes_ascii {a : UInt8} (ascii : a.toNat < 128) (rest : List UInt8) :
    lossyBytes (a :: rest) = a :: lossyBytes rest := by
  have encoded : String.utf8EncodeChar (Char.ofNat a.toNat) = [a] := by
    have value : (Char.ofNat a.toNat).val.toNat = a.toNat := toNat_ofNat_ascii ascii
    unfold String.utf8EncodeChar
    rw [value, if_pos (Nat.le_of_lt_succ ascii), UInt8.ofNat_toNat]
  rw [lossyBytes_cons, firstPiece_ascii ascii]
  exact congrArg (· ++ lossyBytes rest) encoded

theorem lossyBytes_append (earlier : List UInt8) {a : UInt8} (ascii : a.toNat < 128)
    (rest : List UInt8) :
    lossyBytes (earlier ++ a :: rest) = lossyBytes earlier ++ a :: lossyBytes rest := by
  induction earlier using decodeUtf8.induct with
  | case1 =>
    rw [lossyBytes_nil]
    exact lossyBytes_ascii ascii rest
  | case2 lead behind ih =>
    have within := firstPiece_length_le lead behind
    rw [List.cons_append, lossyBytes_cons, firstPiece_append_ascii lead behind ascii rest,
      List.drop_append_of_le_length within, ih, lossyBytes_cons, List.append_assoc]

-- A first byte that yields one of the first 128 characters, null apart, is its code.
theorem lead_of_mem_encode {a lead : UInt8} {rest : List UInt8} (ascii : a.toNat < 128)
    (visible : a.toNat ≠ 0)
    (member : a ∈ String.utf8EncodeChar (firstPiece lead rest).1.replaced) : lead = a := by
  obtain ⟨code, -⟩ := eq_singleton_of_mem_encode ascii member
  by_cases near : lead.toNat < 128
  · rw [firstPiece_ascii near] at code
    have value := toNat_ofNat_ascii near
    exact UInt8.toNat_inj.1 (value.symm.trans code)
  · have distant := isDistant_firstPiece (Nat.le_of_not_lt near) rest
    unfold isDistant at distant
    omega

theorem mem_of_mem_lossyBytes {a : UInt8} (ascii : a.toNat < 128) (visible : a.toNat ≠ 0)
    {bytes : List UInt8} (member : a ∈ lossyBytes bytes) : a ∈ bytes := by
  induction bytes using decodeUtf8.induct with
  | case1 =>
    rw [lossyBytes_nil] at member
    exact member
  | case2 lead behind ih =>
    rw [lossyBytes_cons, List.mem_append] at member
    rcases member with here | later
    · rw [lead_of_mem_encode ascii visible here]
      exact List.mem_cons_self
    · exact List.mem_cons_of_mem _ (List.mem_of_mem_drop (ih later))

theorem lossyBytes_eq_nil_iff {bytes : List UInt8} : lossyBytes bytes = [] ↔ bytes = [] := by
  constructor
  · intro empty
    cases bytes with
    | nil => rfl
    | cons lead rest =>
      rw [lossyBytes_cons, List.append_eq_nil_iff] at empty
      exact absurd empty.1 String.utf8EncodeChar_ne_nil
  · rintro rfl
    exact lossyBytes_nil

theorem lossyBytes_eq_singleton_iff {a : UInt8} (ascii : a.toNat < 128) (visible : a.toNat ≠ 0)
    {bytes : List UInt8} : lossyBytes bytes = [a] ↔ bytes = [a] := by
  constructor
  · intro single
    cases bytes with
    | nil => rw [lossyBytes_nil] at single; cases single
    | cons lead rest =>
      rw [lossyBytes_cons] at single
      have member : a ∈ String.utf8EncodeChar (firstPiece lead rest).1.replaced := by
        cases encoded : String.utf8EncodeChar (firstPiece lead rest).1.replaced with
        | nil => exact absurd encoded String.utf8EncodeChar_ne_nil
        | cons b more =>
          rw [encoded, List.cons_append, List.cons.injEq] at single
          rw [single.1]
          exact List.mem_cons_self
      have same := lead_of_mem_encode ascii visible member
      subst same
      rw [← lossyBytes_cons, lossyBytes_ascii ascii, List.cons.injEq,
        lossyBytes_eq_nil_iff] at single
      rw [single.2]
  · rintro rfl
    rw [lossyBytes_ascii ascii, lossyBytes_nil]

end BurstProfiler.Text

namespace BurstProfiler.Path

open Text

theorem splitSlashes_free (piece : List UInt8) {bytes : List UInt8} (free : slash ∉ bytes) :
    splitSlashes piece bytes = [piece.reverse ++ bytes] := by
  induction bytes generalizing piece with
  | nil => rw [List.append_nil]; rfl
  | cons b rest ih =>
    have different : ¬ (b == slash) = true := by
      intro same
      rw [beq_iff_eq] at same
      exact free (same ▸ List.mem_cons_self)
    rw [splitSlashes, if_neg different, ih (b :: piece) (fun h => free (List.mem_cons_of_mem _ h)),
      List.reverse_cons, List.append_assoc]
    rfl

theorem splitSlashes_append (piece : List UInt8) {bytes : List UInt8} (free : slash ∉ bytes)
    (rest : List UInt8) :
    splitSlashes piece (bytes ++ slash :: rest) =
      (piece.reverse ++ bytes) :: splitSlashes [] rest := by
  induction bytes generalizing piece with
  | nil => rw [List.append_nil]; rfl
  | cons b more ih =>
    have different : ¬ (b == slash) = true := by
      intro same
      rw [beq_iff_eq] at same
      exact free (same ▸ List.mem_cons_self)
    rw [List.cons_append, splitSlashes, if_neg different,
      ih (b :: piece) (fun h => free (List.mem_cons_of_mem _ h)), List.reverse_cons,
      List.append_assoc]
    rfl

theorem lossy_slash_free {piece : List UInt8} (free : slash ∉ piece) :
    slash ∉ lossyBytes piece.reverse := fun member =>
  free (List.mem_reverse.1 (mem_of_mem_lossyBytes (by decide) (by decide) member))

theorem splitSlashes_lossy {piece : List UInt8} (free : slash ∉ piece) (bytes : List UInt8) :
    splitSlashes [] (lossyBytes (piece.reverse ++ bytes)) =
      (splitSlashes piece bytes).map lossyBytes := by
  induction bytes generalizing piece with
  | nil =>
    rw [List.append_nil, splitSlashes_free [] (lossy_slash_free free)]
    rfl
  | cons b rest ih =>
    by_cases same : b = slash
    · subst same
      rw [lossyBytes_append _ (by decide), splitSlashes_append [] (lossy_slash_free free)]
      exact congrArg _ (ih List.not_mem_nil)
    · have more : slash ∉ b :: piece := by
        rw [List.mem_cons, not_or]
        exact ⟨fun h => same h.symm, free⟩
      rw [splitSlashes, if_neg (by rw [beq_iff_eq]; exact same), ← ih more, List.reverse_cons,
        List.append_assoc]
      rfl

-- Whether a path starts at the root can be seen in its lossy text.
theorem head?_lossy (bytes : List UInt8) :
    ((lossyBytes bytes).head? == some slash) = (bytes.head? == some slash) := by
  cases bytes with
  | nil => rw [lossyBytes_nil]
  | cons b rest =>
    by_cases same : b = slash
    · subst same
      rw [lossyBytes_ascii (by decide)]
      rfl
    · have other : (lossyBytes (b :: rest)).head? ≠ some slash := by
        intro head
        apply same
        rw [lossyBytes_cons] at head
        cases encoded : String.utf8EncodeChar (firstPiece b rest).1.replaced with
        | nil => exact absurd encoded String.utf8EncodeChar_ne_nil
        | cons c more =>
          rw [encoded, List.cons_append, List.head?_cons, Option.some.injEq] at head
          have member : slash ∈ String.utf8EncodeChar (firstPiece b rest).1.replaced := by
            rw [encoded, head]
            exact List.mem_cons_self
          exact lead_of_mem_encode (by decide) (by decide) member
      rw [beq_eq_false_iff_ne.2 other, List.head?_cons]
      exact (beq_eq_false_iff_ne.2 (fun h => same (Option.some.inj h))).symm

def Components.lossy (c : Components) : Components := ⟨c.rooted, c.names.map lossyBytes⟩

theorem bne_nil_lossy (piece : List UInt8) : (lossyBytes piece != []) = (piece != []) := by
  rw [Bool.eq_iff_iff, bne_iff_ne, bne_iff_ne, ne_eq, ne_eq, lossyBytes_eq_nil_iff]

theorem bne_dot_lossy (piece : List UInt8) : (lossyBytes piece != [dot]) = (piece != [dot]) := by
  rw [Bool.eq_iff_iff, bne_iff_ne, bne_iff_ne, ne_eq, ne_eq,
    lossyBytes_eq_singleton_iff (by decide) (by decide)]

theorem head?_map_lossy (pieces : List (List UInt8)) :
    ((pieces.map lossyBytes).head? == some [dot]) = (pieces.head? == some [dot]) := by
  cases pieces with
  | nil => rfl
  | cons piece rest =>
    rw [List.map_cons, List.head?_cons, List.head?_cons, Option.some_beq_some,
      Option.some_beq_some]
    exact Bool.not_inj (bne_dot_lossy piece)

theorem components_lossy (path : Path) :
    (ofText path.lossy).components = path.components.lossy := by
  have pieces : splitSlashes [] (lossyBytes path.bytes) =
      (splitSlashes [] path.bytes).map lossyBytes :=
    splitSlashes_lossy List.not_mem_nil path.bytes
  have bytes : (ofText path.lossy).bytes = lossyBytes path.bytes := rfl
  unfold components Components.lossy
  simp only [bytes, pieces, head?_lossy, head?_map_lossy, List.map_append, Components.mk.injEq,
    true_and]
  congr 1
  · split
    · rw [List.map_singleton, (lossyBytes_eq_singleton_iff (by decide) (by decide)).2 rfl]
    · rfl
  · rw [List.filter_map]
    congr 1
    apply List.filter_congr
    intro piece _
    simp only [Function.comp_apply, bne_nil_lossy, bne_dot_lossy]

-- Paths that name the same place have texts that name the same place.
theorem same_lossy {a b : Path} (h : a.same b = true) :
    (ofText a.lossy).same (ofText b.lossy) = true := by
  unfold same at *
  rw [beq_iff_eq] at *
  rw [components_lossy, components_lossy, h]

theorem ofString_injective {a b : String} (h : Path.ofString a = Path.ofString b) : a = b := by
  have bytes : Text.encodeUtf8 a.toList = Text.encodeUtf8 b.toList := congrArg Path.bytes h
  have texts : String.ofList a.toList = String.ofList b.toList :=
    String.toByteArray_inj.1 (congrArg List.toByteArray bytes)
  simpa only [String.ofList_toList] using texts

end BurstProfiler.Path
