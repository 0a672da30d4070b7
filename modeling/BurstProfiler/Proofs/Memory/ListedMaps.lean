import BurstProfiler.Memory.Listing
import BurstProfiler.Proofs.Numerals
import BurstProfiler.Proofs.Words

/-! Memory maps read back from their listings. All that a line says of a mapping is read back as it
was, except the path of its file: this is put together again from its words, so other white space in
it than single spaces is lost, and files whose paths differ in nothing else become one. -/

set_option autoImplicit false

namespace BurstProfiler.Memory

open Text Number

/-- What can stand in the line of a mapping: permissions without white space, and a path that begins
with none and stays on the line. -/
structure Listed.Fits (l : Listed) : Prop where
  perms : l.mapping.perms ≠ ""
  solid : Solid l.mapping.perms.toList
  path : ∀ path ∈ l.mapping.pathname,
    path.toList.head?.map isBlank = some false ∧ '\n' ∉ path.toList

instance (l : Listed) : Decidable l.Fits :=
  decidable_of_iff (l.mapping.perms ≠ "" ∧ Solid l.mapping.perms.toList ∧
      ∀ path ∈ l.mapping.pathname,
        path.toList.head?.map isBlank = some false ∧ '\n' ∉ path.toList)
    ⟨fun h => ⟨h.1, h.2.1, h.2.2⟩, fun h => ⟨h.perms, h.solid, h.path⟩⟩

/-- A path with single spaces for the white space between its words, and none behind them. -/
def respace (path : String) : String := String.ofList ([' '].intercalate (words path.toList))

def Mapping.respaced (m : Mapping) : Mapping := { m with pathname := m.pathname.map respace }

theorem respace_eq_iff (path : String) : respace path = path ↔ SinglySpaced path.toList := by
  rw [respace, ← intercalate_words_eq_iff, ← String.toList_inj, String.toList_ofList]

theorem Mapping.respaced_eq_iff (m : Mapping) :
    m.respaced = m ↔ ∀ path ∈ m.pathname, SinglySpaced path.toList := by
  obtain ⟨start, finish, perms, offset, pathname⟩ := m
  simp only [respaced, Mapping.mk.injEq, true_and]
  cases pathname with
  | none => simp
  | some path => simp [respace_eq_iff]

section Numbers

variable {width n : Nat} {c : Char}

theorem plain_digitChar : ∀ d < 16,
    isBlank d.digitChar = false ∧ d.digitChar ≠ '-' := by decide

theorem mem_paddedHex (member : c ∈ paddedHex width n) : ∃ d < 16, c = d.digitChar := by
  rcases List.mem_append.1 member with zero | digit
  · exact ⟨0, by decide, List.eq_of_mem_replicate zero⟩
  · exact mem_toDigits (by decide) digit

theorem solid_paddedHex (width n : Nat) : Solid (paddedHex width n) := by
  intro c member
  obtain ⟨d, small, rfl⟩ := mem_paddedHex member
  exact (plain_digitChar d small).1

theorem solid_toDigits {radix : Nat} (large : 1 < radix) (most : radix ≤ 16) (n : Nat) :
    Solid (Nat.toDigits radix n) := by
  intro c member
  obtain ⟨d, small, rfl⟩ := mem_toDigits large member
  exact (plain_digitChar d (by omega)).1

theorem paddedHex_ne_nil (width n : Nat) : paddedHex width n ≠ [] :=
  List.append_ne_nil_of_right_ne_nil _ Nat.toDigits_ne_nil

theorem readAddress?_paddedHex (width : Nat) (address : UInt64) :
    readAddress? (paddedHex width address.toNat) = some address := by
  have bound : address.toNat ≤ maxWord := Nat.le_of_lt_succ address.toNat_lt
  have read : readWord 16 (paddedHex width address.toNat) = .ok address.toNat :=
    readUnsigned_zeros (by decide) (by decide) bound _
  rw [readAddress?, read]
  exact congrArg some UInt64.ofNat_toNat

theorem splitHyphen?_append {low high : List Char} (none : '-' ∉ low) :
    splitHyphen? (low ++ '-' :: high) = some (low, high) := by
  have other : ∀ c ∈ low, (c != '-') = true := by
    intro c member
    rw [bne_iff_ne]
    exact fun same => none (same ▸ member)
  rw [splitHyphen?, List.dropWhile_append_of_pos other, List.takeWhile_append_of_pos other]
  simp

end Numbers

namespace Listed

variable (l : Listed)

def range : List Char :=
  paddedHex 8 l.mapping.start.toNat ++ '-' :: paddedHex 8 l.mapping.finish.toNat

def offset : List Char := paddedHex 8 l.mapping.offset.toNat

def device : List Char := paddedHex 2 l.major ++ ':' :: paddedHex 2 l.minor

def path : List Char := (l.mapping.pathname.getD "").toList

theorem line_eq : l.line = l.range ++ ' ' :: (l.mapping.perms.toList ++ ' ' :: (l.offset ++
    ' ' :: (l.device ++ ' ' :: (Nat.toDigits 10 l.inode ++
      ' ' :: (List.replicate l.blanks ' ' ++ l.path))))) := by
  simp [line, range, offset, device, path, List.replicate_succ]

theorem solid_range : Solid l.range :=
  (solid_paddedHex _ _).append (solid_cons.2 ⟨rfl, solid_paddedHex _ _⟩)

theorem solid_offset : Solid l.offset := solid_paddedHex _ _

theorem solid_device : Solid l.device :=
  (solid_paddedHex _ _).append (solid_cons.2 ⟨rfl, solid_paddedHex _ _⟩)

variable {l}

theorem words_line (h : l.Fits) : words l.line = l.range :: l.mapping.perms.toList :: l.offset ::
    l.device :: Nat.toDigits 10 l.inode :: words l.path := by
  have space : isBlank ' ' = true := rfl
  have perms : l.mapping.perms.toList ≠ [] := by simpa using h.perms
  rw [line_eq, words_append_blank l.solid_range (by simp [range]) space,
    words_append_blank h.solid perms space,
    words_append_blank l.solid_offset (paddedHex_ne_nil _ _) space,
    words_append_blank l.solid_device (by simp [device]) space,
    words_append_blank (solid_toDigits (by decide) (by decide) _) Nat.toDigits_ne_nil space,
    words_replicate_append]

theorem feed_not_mem_line (h : l.Fits) : '\n' ∉ l.line := by
  have solid : ∀ {text : List Char}, Solid text → '\n' ∉ text := by
    intro text solid member
    have inside := solid '\n' member
    cases inside
  have path : '\n' ∉ l.path := by
    unfold Listed.path
    cases named : l.mapping.pathname with
    | none => exact List.not_mem_nil
    | some path => exact (h.path path named).2
  rw [line_eq]
  simp only [List.mem_append, List.mem_cons, List.mem_replicate, not_or]
  exact ⟨solid l.solid_range, by decide, solid h.solid, by decide, solid (solid_paddedHex _ _),
    by decide, solid l.solid_device, by decide,
    solid (solid_toDigits (by decide) (by decide) _), by decide, fun blank => by simp at blank,
    path⟩

theorem ofLine?_dropReturn (line : List Char) :
    Mapping.ofLine? (dropReturn line) = Mapping.ofLine? line := by
  simp only [Mapping.ofLine?, words_dropReturn]

theorem ofLine?_line (h : l.Fits) : Mapping.ofLine? l.line = some l.mapping.respaced := by
  have low : '-' ∉ paddedHex 8 l.mapping.start.toNat := by
    intro member
    obtain ⟨d, small, digit⟩ := mem_paddedHex member
    exact (plain_digitChar d small).2 digit.symm
  have split : splitHyphen? l.range = some (paddedHex 8 l.mapping.start.toNat,
      paddedHex 8 l.mapping.finish.toNat) := splitHyphen?_append low
  have pathname : (if (words l.path).isEmpty then none
      else some (String.ofList ([' '].intercalate (words l.path)))) =
        l.mapping.pathname.map respace := by
    unfold Listed.path
    cases named : l.mapping.pathname with
    | none => rfl
    | some path =>
      obtain ⟨c, first, inside⟩ := Option.map_eq_some_iff.1 (h.path path named).1
      have ne : path.toList ≠ [] := by
        intro empty
        rw [empty] at first
        cases first
      have words_ne : words path.toList ≠ [] := by
        refine words_ne_nil ne fun d head => ?_
        cases Option.mem_unique first head
        exact inside
      rw [Option.getD_some, if_neg (by simpa using words_ne)]
      rfl
  rw [Mapping.ofLine?, words_line h]
  simp only [split, offset, readAddress?_paddedHex, Option.bind_eq_bind, Option.bind_some,
    String.ofList_toList, pathname]
  rfl

end Listed

/-- **Listings are read back up to the spacing of paths.** Whatever mappings a listing holds, in
whatever spacing in front of the paths, they are read back in order with all their numbers and
permissions and with paths where there were some; and it is the very mappings that are read back
just when no path has other white space than single spaces between its words. -/
theorem parse_listing_iff_singly_spaced (entries : List Listed)
    (fit : ∀ entry ∈ entries, entry.Fits) :
    Maps.parse (listing entries) = ⟨entries.map (fun entry => entry.mapping.respaced)⟩ ∧
      (Maps.parse (listing entries) = ⟨entries.map Listed.mapping⟩ ↔
        ∀ entry ∈ entries, ∀ path ∈ entry.mapping.pathname, SinglySpaced path.toList) := by
  have read : Maps.parse (listing entries) =
      ⟨entries.map (fun entry => entry.mapping.respaced)⟩ := by
    rw [Maps.parse, listing, lines_flatMap fun entry member =>
      Listed.feed_not_mem_line (fit entry member), List.filterMap_map, ← List.filterMap_eq_map]
    refine congrArg Maps.mk (List.filterMap_congr fun entry member => ?_)
    rw [Function.comp_apply, Function.comp_apply, Listed.ofLine?_dropReturn,
      Listed.ofLine?_line (fit entry member)]
  refine ⟨read, ?_⟩
  rw [read, Maps.mk.injEq, List.map_inj_left]
  exact forall₂_congr fun entry _ => entry.mapping.respaced_eq_iff

def listedPlain : List Listed :=
  [⟨⟨18446744073709547520, 18446744073709551615, "r-xp", 4096, some "/a b (deleted)"⟩, 8, 1, 42, 9⟩,
    ⟨⟨4096, 8192, "rw-p", 0, none⟩, 0, 0, 0, 0⟩]

theorem parse_listing_iff_singly_spaced_plain :
    (∀ entry ∈ listedPlain, entry.Fits) ∧
      Maps.parse (listing listedPlain) = ⟨listedPlain.map Listed.mapping⟩ := by
  have fit : ∀ entry ∈ listedPlain, entry.Fits := by decide +kernel
  have spaced : ∀ entry ∈ listedPlain, ∀ path ∈ entry.mapping.pathname,
      SinglySpaced path.toList := by
    intro entry member path named
    rw [← respace_eq_iff]
    revert entry path
    decide +kernel
  exact ⟨fit, (parse_listing_iff_singly_spaced listedPlain fit).2.2 spaced⟩

def listedSpaces : List Listed :=
  [⟨⟨4096, 8192, "r-xp", 0, some "/a  b"⟩, 8, 1, 7, 9⟩,
    ⟨⟨8192, 12288, "r-xp", 0, some "/a b"⟩, 8, 1, 8, 9⟩]

-- Both are read back under the path of the second.
theorem listing_merges_spaces :
    (∀ entry ∈ listedSpaces, entry.Fits) ∧
      (Maps.parse (listing listedSpaces)).mappings.map Mapping.pathname =
        [some "/a b", some "/a b"] ∧
      Maps.parse (listing listedSpaces) ≠ ⟨listedSpaces.map Listed.mapping⟩ := by
  decide +kernel

end BurstProfiler.Memory
