import BurstProfiler.Proofs.Numerals
import BurstProfiler.Report.HotFrames

/-! Comma-separated values read back. A field outside quotes is read as it stands, because the
texts that are written there have none of the characters that end a field or a record. A field in
quotes may hold any characters: its quotes are doubled, so the quote that closes it is the first
one that no other follows. -/

set_option autoImplicit false

namespace BurstProfiler.Report

open BurstProfiler.Number

namespace Csv

/-- A text that means the same outside quotes. -/
def Plain (text : List Char) : Prop :=
  ∀ c ∈ text, c ≠ '"' ∧ c ≠ ',' ∧ c ≠ '\n' ∧ c ≠ '\r'

instance (text : List Char) : Decidable (Plain text) := List.decidableBAll _ text

theorem plain_cons {c : Char} {text : List Char} : Plain (c :: text) ↔
    (c ≠ '"' ∧ c ≠ ',' ∧ c ≠ '\n' ∧ c ≠ '\r') ∧ Plain text :=
  List.forall_mem_cons

theorem Plain.append {first second : List Char} (h : Plain first) (k : Plain second) :
    Plain (first ++ second) :=
  fun c member => (List.mem_append.1 member).elim (h c) (k c)

section Fields

variable {text field : List Char} {record : List (List Char)}

theorem readFrom_comma {mode : Mode} (open_ : mode ≠ .inQuotes) (rest : List Char) :
    readFrom mode field record (',' :: rest) =
      readFrom .start [] (field.reverse :: record) rest := by
  cases mode with
  | inQuotes => exact absurd rfl open_
  | start | bare | afterQuote => simp [readFrom]

theorem readFrom_feed {mode : Mode} (open_ : mode ≠ .inQuotes) (rest : List Char) :
    readFrom mode field record ('\n' :: rest) =
      (readFrom .start [] [] rest).map ((field.reverse :: record).reverse :: ·) := by
  cases mode with
  | inQuotes => exact absurd rfl open_
  | start | bare | afterQuote => simp [readFrom]

theorem readFrom_bare (plain : Plain text) (rest : List Char) :
    readFrom .bare field record (text ++ rest) =
      readFrom .bare (text.reverse ++ field) record rest := by
  induction text generalizing field with
  | nil => rfl
  | cons c text ih =>
    obtain ⟨⟨quote, comma, feed, ret⟩, plain⟩ := plain_cons.1 plain
    rw [List.cons_append, readFrom, if_neg comma, if_neg feed, if_neg (fun h => ret h.1),
      if_neg quote, ih plain, List.reverse_cons, List.append_assoc]
    rfl

-- The reader need not know where it stands in a field before the field ends.
theorem readFrom_plain (plain : Plain text) (rest : List Char) :
    ∃ mode, mode ≠ .inQuotes ∧
      readFrom .start [] record (text ++ rest) = readFrom mode text.reverse record rest := by
  cases text with
  | nil => exact ⟨.start, nofun, rfl⟩
  | cons c text =>
    obtain ⟨⟨quote, comma, feed, ret⟩, plain⟩ := plain_cons.1 plain
    refine ⟨.bare, nofun, ?_⟩
    rw [List.cons_append, readFrom, if_neg comma, if_neg feed, if_neg (fun h => ret h.1),
      if_neg quote, readFrom_bare plain, List.reverse_cons]

theorem readFrom_plain_comma (plain : Plain text) (rest : List Char) :
    readFrom .start [] record (text ++ ',' :: rest) = readFrom .start [] (text :: record) rest := by
  obtain ⟨mode, open_, read⟩ := readFrom_plain plain (',' :: rest)
  rw [read, readFrom_comma open_, List.reverse_reverse]

theorem readFrom_plain_feed (plain : Plain text) (rest : List Char) :
    readFrom .start [] record (text ++ '\n' :: rest) =
      (readFrom .start [] [] rest).map ((text :: record).reverse :: ·) := by
  obtain ⟨mode, open_, read⟩ := readFrom_plain plain ('\n' :: rest)
  rw [read, readFrom_feed open_, List.reverse_reverse]

-- The induction is on the text. Of a doubled quote the first leads behind the quotes and the
-- second back between them, with one quote read.
theorem readFrom_escape (text rest : List Char) :
    readFrom .inQuotes field record (escape text ++ '"' :: rest) =
      readFrom .afterQuote (text.reverse ++ field) record rest := by
  induction text generalizing field with
  | nil => simp [escape, readFrom]
  | cons c text ih =>
    rw [List.reverse_cons, List.append_assoc, List.singleton_append]
    by_cases quote : c = '"'
    · subst quote
      rw [escape, if_pos rfl, List.cons_append, List.cons_append, readFrom, if_pos rfl, readFrom,
        if_pos rfl, ih]
    · rw [escape, if_neg quote, List.cons_append, readFrom, if_neg quote, ih]

theorem readFrom_quoted_comma (text rest : List Char) :
    readFrom .start [] record (quoted text ++ ',' :: rest) =
      readFrom .start [] (text :: record) rest := by
  have opened : readFrom .start [] record (quoted text ++ ',' :: rest) =
      readFrom .inQuotes [] record (escape text ++ '"' :: ',' :: rest) := by
    simp [quoted, readFrom]
  have behind : Mode.afterQuote ≠ .inQuotes := nofun
  rw [opened, readFrom_escape, readFrom_comma behind, List.append_nil, List.reverse_reverse]

end Fields

end Csv

section Texts

open Csv

theorem plain_toDigits {radix : Nat} (large : 1 < radix) (most : radix ≤ 16) (n : Nat) :
    Plain (Nat.toDigits radix n) := by
  have digits : ∀ d < 16, d.digitChar ≠ '"' ∧ d.digitChar ≠ ',' ∧ d.digitChar ≠ '\n' ∧
      d.digitChar ≠ '\r' := by decide
  intro c member
  obtain ⟨d, small, rfl⟩ := mem_toDigits large member
  exact digits d (by omega)

theorem plain_hexText (n : Nat) : Plain (hexText n) :=
  plain_cons.2 ⟨by decide, plain_cons.2 ⟨by decide, plain_toDigits (by decide) (by decide) n⟩⟩

theorem plain_fixedText (places : Nat) (x : Binary64) : Plain (x.fixedText places) := by
  have plain : Plain "0123456789.-infNaN".toList := by decide
  exact fun c member => plain c (mem_fixedText member)

end Texts

/-- The fields of an entry: its share, its number of samples, the path of its module, which is
empty if there is none, and its offset. -/
def Entry.fields (e : Entry) : List (List Char) :=
  [e.shareText, Nat.toDigits 10 e.frame.samples, (e.frame.module.getD "").toList,
    hexText e.frame.offset.toNat]

theorem readFrom_csvLine (e : Entry) (rest : List Char) :
    Csv.readFrom .start [] [] (csvLine e ++ rest) =
      (Csv.readFrom .start [] [] rest).map (e.fields :: ·) := by
  have line : csvLine e ++ rest = e.shareText ++ ',' :: (Nat.toDigits 10 e.frame.samples ++
      ',' :: (Csv.quoted (e.frame.module.getD "").toList ++
        ',' :: (hexText e.frame.offset.toNat ++ '\n' :: rest))) := by
    simp [csvLine]
  have share : Csv.Plain e.shareText := plain_fixedText _ _
  have samples : Csv.Plain (Nat.toDigits 10 e.frame.samples) :=
    plain_toDigits (by decide) (by decide) _
  rw [line, Csv.readFrom_plain_comma share, Csv.readFrom_plain_comma samples,
    Csv.readFrom_quoted_comma, Csv.readFrom_plain_feed (plain_hexText _)]
  rfl

theorem read_flatMap_csvLine (entries : List Entry) :
    Csv.read (entries.flatMap csvLine) = some (entries.map Entry.fields) := by
  induction entries with
  | nil => rfl
  | cons e rest ih =>
    rw [Csv.read] at ih
    rw [Csv.read, List.flatMap_cons, readFrom_csvLine, ih]
    rfl

theorem read_csvHeader_append (rest : List Char) :
    Csv.read (csvHeader ++ rest) = (Csv.read rest).map
      (["self_pct", "samples", "module", "offset"].map String.toList :: ·) := by
  have line : csvHeader ++ rest = "self_pct".toList ++ ',' :: ("samples".toList ++
      ',' :: ("module".toList ++ ',' :: ("offset".toList ++ '\n' :: rest))) := rfl
  have plain : ∀ name ∈ ["self_pct", "samples", "module", "offset"],
      Csv.Plain name.toList := by
    decide
  rw [Csv.read, line, Csv.readFrom_plain_comma (plain _ (by decide)),
    Csv.readFrom_plain_comma (plain _ (by decide)),
    Csv.readFrom_plain_comma (plain _ (by decide)), Csv.readFrom_plain_feed (plain _ (by decide))]
  rfl

/-- **Comma-separated values read back.** Whatever the entries are, their text reads as the header
and one record for each entry, in order. A record has four fields: the text of the share, digits
that are read as the number of samples, the path of the module character for character, and behind
`0x` digits that are read as the offset. -/
theorem read_hotFramesCsv (entries : List Entry) :
    Csv.read (hotFramesCsv entries) =
        some (["self_pct", "samples", "module", "offset"].map String.toList ::
          entries.map Entry.fields) ∧
      ∀ e ∈ entries, ∃ count digits,
        e.fields = [e.shareText, count, (e.frame.module.getD "").toList, '0' :: 'x' :: digits] ∧
        (∀ limit, e.frame.samples ≤ limit → readUnsigned 10 limit count = .ok e.frame.samples) ∧
        readWord 16 digits = .ok e.frame.offset.toNat := by
  constructor
  · rw [hotFramesCsv, read_csvHeader_append, read_flatMap_csvLine]
    rfl
  · intro e _
    have bound : e.frame.offset.toNat ≤ maxWord := Nat.le_of_lt_succ e.frame.offset.toNat_lt
    exact ⟨_, _, rfl, fun _ fits => readUnsigned_toDigits (by decide) (by decide) fits,
      readUnsigned_toDigits (by decide) (by decide) bound⟩

def awkwardEntries : List Entry :=
  [⟨⟨some "/a\"b,\nc", 0x1234, 7⟩, ⟨0x4040AAAAAAAAAAAB⟩⟩, ⟨⟨none, 0, 1⟩, .notANumber⟩]

theorem read_hotFramesCsv_awkward :
    hotFramesCsv awkwardEntries = ("self_pct,samples,module,offset\n" ++
        "33.3,7,\"/a\"\"b,\nc\",0x1234\n" ++ "NaN,1,\"\",0x0\n").toList ∧
      Csv.read (hotFramesCsv awkwardEntries) = some ([["self_pct", "samples", "module", "offset"],
        ["33.3", "7", "/a\"b,\nc", "0x1234"], ["NaN", "1", "", "0x0"]].map
          (List.map String.toList)) ∧
      readUnsigned 10 7 ['7'] = .ok 7 := by
  obtain ⟨read, fields⟩ := read_hotFramesCsv awkwardEntries
  obtain ⟨count, digits, same, samples, -⟩ := fields _ List.mem_cons_self
  have number : count = ['7'] := by
    have second := congrArg (fun record => record[1]?) same
    exact (Option.some.inj second).symm
  exact ⟨by decide +kernel, by rw [read]; decide +kernel, number ▸ samples 7 (by decide)⟩

end BurstProfiler.Report
