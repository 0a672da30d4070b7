import BurstProfiler.Text.Blank
import Mathlib.Data.List.Chain

/-! Words and lines read back. A text that is put together of words with white space between them
has these words; put together again with single spaces they give the text only if it had no other
white space. -/

set_option autoImplicit false

namespace BurstProfiler.Text

def Solid (text : List Char) : Prop := ∀ c ∈ text, isBlank c = false

-- Decided along the text; the instance that is inferred may go through all characters.
instance (text : List Char) : Decidable (Solid text) :=
  List.decidableBAll (fun c => isBlank c = false) text

/-- Text in which white space is but single spaces, each between two words. -/
structure SinglySpaced (text : List Char) : Prop where
  spaces : ∀ c ∈ text, isBlank c = true → c = ' '
  apart : text.IsChain (fun a b => isBlank a = true → isBlank b = false)
  first : ∀ c ∈ text.head?, isBlank c = false
  last : ∀ c ∈ text.getLast?, isBlank c = false

theorem solid_nil : Solid [] := fun _ none => absurd none List.not_mem_nil

theorem Solid.append {first second : List Char} (h : Solid first) (k : Solid second) :
    Solid (first ++ second) := by
  intro c member
  rcases List.mem_append.1 member with left | right
  · exact h c left
  · exact k c right

theorem Solid.reverse {text : List Char} (h : Solid text) : Solid text.reverse :=
  fun c member => h c (List.mem_reverse.1 member)

theorem solid_cons {c : Char} {text : List Char} :
    Solid (c :: text) ↔ isBlank c = false ∧ Solid text := List.forall_mem_cons

section Words

variable {word rest : List Char} {c : Char}

theorem wordsFrom_solid (begun : List Char) (solid : Solid word) :
    wordsFrom begun (word ++ rest) = wordsFrom (word.reverse ++ begun) rest := by
  induction word generalizing begun with
  | nil => rfl
  | cons c word ih =>
    obtain ⟨inside, solid⟩ := solid_cons.1 solid
    rw [List.cons_append, wordsFrom, if_neg (Bool.eq_false_iff.1 inside), ih (c :: begun) solid,
      List.reverse_cons, List.append_assoc]
    rfl

theorem wordsFrom_blank (blank : isBlank c = true) (ne : word ≠ []) :
    wordsFrom word (c :: rest) = word.reverse :: words rest := by
  rw [wordsFrom, if_pos blank, if_neg (by simpa using ne)]
  rfl

theorem words_append_blank (solid : Solid word) (ne : word ≠ []) (blank : isBlank c = true) :
    words (word ++ c :: rest) = word :: words rest := by
  rw [words, wordsFrom_solid [] solid, List.append_nil,
    wordsFrom_blank blank (List.reverse_ne_nil_iff.2 ne), List.reverse_reverse]

theorem words_blank_cons (blank : isBlank c = true) : words (c :: rest) = words rest := by
  rw [words, wordsFrom, if_pos blank]
  rfl

theorem words_replicate_append (n : Nat) (text : List Char) :
    words (List.replicate n ' ' ++ text) = words text := by
  induction n with
  | zero => rfl
  | succ n ih => rw [List.replicate_succ, List.cons_append, words_blank_cons rfl, ih]

theorem wordsFrom_concat_blank (begun text : List Char) (blank : isBlank c = true) :
    wordsFrom begun (text ++ [c]) = wordsFrom begun text := by
  induction text generalizing begun with
  | nil => simp only [List.nil_append, wordsFrom, if_pos blank, List.isEmpty_nil, if_true]
  | cons d text ih => simp only [List.cons_append, wordsFrom, ih]

theorem wordsFrom_ne_nil {begun : List Char} (text : List Char) (ne : begun ≠ []) :
    wordsFrom begun text ≠ [] := by
  induction text generalizing begun with
  | nil => simp [wordsFrom, ne]
  | cons c text ih =>
    rw [wordsFrom]
    split
    · simp [ne]
    · exact ih (List.cons_ne_nil c begun)

theorem words_ne_nil {text : List Char} (ne : text ≠ [])
    (first : ∀ c ∈ text.head?, isBlank c = false) : words text ≠ [] := by
  obtain ⟨c, rest, rfl⟩ := List.exists_cons_of_ne_nil ne
  have inside : isBlank c = false := first c rfl
  rw [words, wordsFrom, if_neg (Bool.eq_false_iff.1 inside)]
  exact wordsFrom_ne_nil rest (List.cons_ne_nil c [])

theorem solid_of_mem_wordsFrom {begun text : List Char} (solid : Solid begun)
    (member : word ∈ wordsFrom begun text) : Solid word ∧ word ≠ [] := by
  induction text generalizing begun with
  | nil =>
    rw [wordsFrom] at member
    split at member
    · cases member
    · rename_i ne
      rw [List.mem_singleton.1 member]
      exact ⟨solid.reverse, by simpa using ne⟩
  | cons c text ih =>
    rw [wordsFrom] at member
    split at member
    · split at member
      · exact ih solid_nil member
      · rename_i ne
        rcases List.mem_cons.1 member with rfl | later
        · exact ⟨solid.reverse, by simpa using ne⟩
        · exact ih solid_nil later
    · rename_i inside
      exact ih (solid_cons.2 ⟨Bool.eq_false_iff.2 inside, solid⟩) member

end Words

section Joining

theorem Solid.singlySpaced {text : List Char} (h : Solid text) : SinglySpaced text where
  spaces c member blank := by
    rw [h c member] at blank
    cases blank
  apart := by
    induction text with
    | nil => exact .nil
    | cons c rest ih =>
      obtain ⟨-, solid⟩ := solid_cons.1 h
      refine List.isChain_cons.2 ⟨fun d next _ => ?_, ih solid⟩
      exact solid d (List.mem_of_mem_head? next)
  first c head := h c (List.mem_of_mem_head? head)
  last c last := h c (List.mem_of_mem_getLast? last)

-- A word and a space in front of singly spaced text leave it so, and can be taken off again.
theorem singlySpaced_append_space {word rest : List Char} (solid : Solid word) (ne : word ≠ [])
    (ne' : rest ≠ []) : SinglySpaced (word ++ ' ' :: rest) ↔ SinglySpaced rest := by
  have space : isBlank ' ' = true := rfl
  have last : (word ++ ' ' :: rest).getLast? = rest.getLast? := by
    rw [List.getLast?_append_cons, List.getLast?_cons_of_ne_nil ne']
  have head : (word ++ ' ' :: rest).head? = word.head? := List.head?_append_of_ne_nil word ne
  constructor
  · intro h
    obtain ⟨next, apart⟩ := List.isChain_cons.1 (List.isChain_append.1 h.apart).2.1
    exact {
      spaces := fun c member =>
        h.spaces c (List.mem_append_right word (List.mem_cons_of_mem ' ' member))
      apart := apart
      first := fun c head => next c head space
      last := fun c end' => h.last c (last.symm ▸ end') }
  · intro h
    refine ⟨?_, List.isChain_append.2 ⟨solid.singlySpaced.apart, ?_, ?_⟩, ?_, ?_⟩
    · intro c member blank
      rcases List.mem_append.1 member with left | right
      · exact solid.singlySpaced.spaces c left blank
      · rcases List.mem_cons.1 right with rfl | right
        · rfl
        · exact h.spaces c right blank
    · exact List.isChain_cons.2 ⟨fun c next _ => h.first c next, h.apart⟩
    · intro c end' _ _ blank
      rw [solid.singlySpaced.last c end'] at blank
      cases blank
    · exact head ▸ solid.singlySpaced.first
    · exact last ▸ h.last

theorem intercalate_ne_nil {word : List Char} {ws : List (List Char)} (ne : word ≠ []) :
    [' '].intercalate (word :: ws) ≠ [] := by
  cases ws with
  | nil =>
    rw [List.intercalate_singleton]
    exact ne
  | cons next ws =>
    rw [List.intercalate_cons_cons]
    simp [ne]

theorem singlySpaced_intercalate {ws : List (List Char)}
    (solid : ∀ word ∈ ws, Solid word ∧ word ≠ []) : SinglySpaced ([' '].intercalate ws) := by
  induction ws with
  | nil => exact solid_nil.singlySpaced
  | cons word ws ih =>
    obtain ⟨⟨own, ne⟩, later⟩ := List.forall_mem_cons.1 solid
    cases ws with
    | nil =>
      rw [List.intercalate_singleton]
      exact own.singlySpaced
    | cons next ws =>
      have ne' : next ≠ [] := (later next List.mem_cons_self).2
      rw [List.intercalate_cons_cons, List.append_assoc, List.singleton_append,
        singlySpaced_append_space own ne (intercalate_ne_nil ne')]
      exact ih later

-- The induction is on the text, with the word that it may be inside of.
theorem intercalate_wordsFrom {begun text : List Char} (solid : Solid begun)
    (h : SinglySpaced (begun.reverse ++ text)) :
    [' '].intercalate (wordsFrom begun text) = begun.reverse ++ text := by
  induction text generalizing begun with
  | nil =>
    cases begun with
    | nil => rfl
    | cons c begun => simp [wordsFrom, List.intercalate_singleton]
  | cons c text ih =>
    by_cases blank : isBlank c = true
    · obtain rfl : c = ' ' := h.spaces c (by simp) blank
      have ne : begun ≠ [] := by
        rintro rfl
        have inside := h.first ' ' rfl
        cases inside
      have ne' : text ≠ [] := by
        rintro rfl
        have inside := h.last ' ' (by simp)
        cases inside
      have rest := (singlySpaced_append_space solid.reverse (List.reverse_ne_nil_iff.2 ne) ne').1 h
      obtain ⟨next, ws, more⟩ := List.exists_cons_of_ne_nil (words_ne_nil ne' rest.first)
      have joined : [' '].intercalate (words text) = text := ih solid_nil rest
      rw [wordsFrom_blank blank ne, more, List.intercalate_cons_cons, ← more, joined,
        List.append_assoc, List.singleton_append]
    · have inside : isBlank c = false := Bool.eq_false_iff.2 blank
      have same : begun.reverse ++ c :: text = (c :: begun).reverse ++ text := by simp
      rw [wordsFrom, if_neg blank, ih (solid_cons.2 ⟨inside, solid⟩) (same ▸ h), ← same]

theorem intercalate_words_eq_iff (text : List Char) :
    [' '].intercalate (words text) = text ↔ SinglySpaced text := by
  constructor
  · intro same
    rw [← same]
    exact singlySpaced_intercalate fun word member => solid_of_mem_wordsFrom solid_nil member
  · exact intercalate_wordsFrom solid_nil

end Joining

section Lines

theorem splitFrom_eq_splitOnPPrepend (separator : Char) (piece text : List Char) :
    splitFrom separator piece text = text.splitOnPPrepend (· == separator) piece := by
  induction text generalizing piece with
  | nil => rfl
  | cons c text ih =>
    rw [splitFrom, List.splitOnPPrepend_cons_eq_if, ← List.splitOnPPrepend_nil_right, ih, ih]
    simp only [beq_iff_eq]

theorem splitAt_eq_splitOn (separator : Char) (text : List Char) :
    splitAt separator text = text.splitOn separator :=
  splitFrom_eq_splitOnPPrepend separator [] text

theorem splitAt_flatMap {α : Type} {line : α → List Char} {entries : List α}
    (inside : ∀ e ∈ entries, '\n' ∉ line e) :
    splitAt '\n' (entries.flatMap (fun e => line e ++ ['\n'])) = entries.map line ++ [[]] := by
  rw [splitAt_eq_splitOn]
  induction entries with
  | nil => rfl
  | cons e rest ih =>
    obtain ⟨own, later⟩ := List.forall_mem_cons.1 inside
    rw [List.flatMap_cons, List.append_assoc, List.singleton_append,
      List.splitOn_append_cons_self_of_not_mem own, ih later]
    rfl

-- Lines that each end in a line feed are read back but for a carriage return at their end.
theorem lines_flatMap {α : Type} {line : α → List Char} {entries : List α}
    (inside : ∀ e ∈ entries, '\n' ∉ line e) :
    lines (entries.flatMap (fun e => line e ++ ['\n'])) =
      entries.map (fun e => dropReturn (line e)) := by
  unfold lines
  rw [splitAt_flatMap inside]
  simp [Function.comp_def]

-- The induction is on the text, with the piece that it may be inside of.
theorem separator_notMem {separator : Char} {begun text piece : List Char}
    (free : separator ∉ begun) (member : piece ∈ splitFrom separator begun text) :
    separator ∉ piece := by
  have ends : separator ∉ begun.reverse := fun inside => free (List.mem_reverse.1 inside)
  induction text generalizing begun with
  | nil =>
    rw [splitFrom, List.mem_singleton] at member
    exact member ▸ ends
  | cons c text ih =>
    rw [splitFrom] at member
    split at member
    · rcases List.mem_cons.1 member with rfl | later
      · exact ends
      · exact ih List.not_mem_nil later (by simp)
    · rename_i other
      have free' : separator ∉ c :: begun := by
        rw [List.mem_cons, not_or]
        exact ⟨Ne.symm other, free⟩
      exact ih free' member fun inside => free' (List.mem_reverse.1 inside)

theorem feed_notMem_of_mem_lines {line text : List Char} (member : line ∈ lines text) :
    '\n' ∉ line := by
  have pieces : ∀ piece ∈ splitAt '\n' text, '\n' ∉ piece := fun piece member =>
    separator_notMem List.not_mem_nil member
  unfold lines at member
  split at member
  · cases member
  · rename_i last earlier reversed
    have among : ∀ piece ∈ last :: earlier, '\n' ∉ piece := fun piece inside =>
      pieces piece (List.mem_reverse.1 (reversed ▸ inside))
    obtain ⟨own, others⟩ := List.forall_mem_cons.1 among
    rcases List.mem_append.1 member with ended | open_
    · obtain ⟨piece, inside, rfl⟩ := List.mem_map.1 ended
      have free := others piece (List.mem_reverse.1 inside)
      unfold dropReturn
      split
      · exact fun feed => free (List.dropLast_subset piece feed)
      · exact free
    · split at open_
      · cases open_
      · rw [List.mem_singleton.1 open_]
        exact own

theorem words_dropReturn (line : List Char) : words (dropReturn line) = words line := by
  unfold dropReturn
  split
  · rename_i last
    obtain ⟨front, rfl⟩ := List.getLast?_eq_some_iff.1 last
    rw [List.dropLast_concat]
    exact (wordsFrom_concat_blank [] front rfl).symm
  · rfl

theorem dropReturn_eq_iff (line : List Char) :
    dropReturn line = line ↔ line.getLast? ≠ some '\r' := by
  unfold dropReturn
  split
  · rename_i last
    obtain ⟨front, rfl⟩ := List.getLast?_eq_some_iff.1 last
    simp
  · rename_i other
    exact ⟨fun _ => other, fun _ => rfl⟩

end Lines

section Joined

variable {separator c : Char} {pieces : List (List Char)}

theorem mem_intercalate (other : c ≠ separator) :
    c ∈ [separator].intercalate pieces ↔ ∃ piece ∈ pieces, c ∈ piece := by
  induction pieces with
  | nil => simp
  | cons piece rest ih =>
    cases rest with
    | nil => simp
    | cons next rest => simp [List.intercalate_cons_cons, other, ih]

theorem getLast?_intercalate (other : c ≠ separator) :
    ([separator].intercalate pieces).getLast? = some c ↔
      ∃ last ∈ pieces.getLast?, last.getLast? = some c := by
  induction pieces with
  | nil => simp
  | cons piece rest ih =>
    cases rest with
    | nil => simp
    | cons next rest =>
      rw [List.intercalate_cons_cons, List.append_assoc, List.singleton_append,
        List.getLast?_append_cons, List.getLast?_cons_cons, ← ih]
      cases [separator].intercalate (next :: rest) with
      | nil => simp [Ne.symm other]
      | cons d joined => rw [List.getLast?_cons_cons]

end Joined

end BurstProfiler.Text
