import BurstProfiler.Proofs.Numerals
import BurstProfiler.Proofs.Words
import BurstProfiler.Report.QueryResult
import Mathlib.Data.Option.Basic

/-! Tab-separated lines read back. Fields are written as they are, so a line comes back as it was
only if nothing in its fields cuts it: no tab, no line feed, and no carriage return in front of the
line feed that ends it. Only the names of columns and stored texts can hold such characters. -/

set_option autoImplicit false

namespace BurstProfiler.Report

open BurstProfiler.Number BurstProfiler.Text

/-- No field of the record is cut where fields or lines are. -/
def Whole (record : List (List Char)) : Prop := ∀ field ∈ record, '\t' ∉ field ∧ '\n' ∉ field

/-- A record whose line has no other ends than those that are written between its fields and
behind it. -/
structure Separable (record : List (List Char)) : Prop where
  whole : Whole record
  last : ∀ field ∈ record.getLast?, field.getLast? ≠ some '\r'

instance (record : List (List Char)) : Decidable (Whole record) :=
  List.decidableBAll (fun field => '\t' ∉ field ∧ '\n' ∉ field) record

theorem separable_iff {record : List (List Char)} : Separable record ↔
    Whole record ∧ ∀ field ∈ record.getLast?, field.getLast? ≠ some '\r' :=
  ⟨fun h => ⟨h.whole, h.last⟩, fun h => ⟨h.1, h.2⟩⟩

instance (record : List (List Char)) : Decidable (Separable record) :=
  decidable_of_iff' _ separable_iff

/-- The text that a value stores; values of other types store none. -/
def Value.storedText : Value → List Char
  | .text t => t.toList
  | _ => []

def Listing.Separable (l : Listing) : Prop :=
  Report.Separable (l.columns.map String.toList) ∧
    ∀ row ∈ l.rows, Report.Separable (row.map Value.storedText)

instance (l : Listing) : Decidable l.Separable := instDecidableAnd

section Records

variable {record : List (List Char)} {records : List (List (List Char))}

theorem whole_of_mem_readTabbed {text : List Char}
    (member : record ∈ Listing.readTabbed text) : Whole record := by
  obtain ⟨line, own, rfl⟩ := List.mem_map.1 member
  intro field inside
  refine ⟨separator_notMem List.not_mem_nil inside, fun feed => ?_⟩
  have joined : ['\t'].intercalate (splitAt '\t' line) = line := by
    rw [splitAt_eq_splitOn, List.intercalate_splitOn]
  have other : '\n' ≠ '\t' := by decide
  exact feed_notMem_of_mem_lines own (joined ▸ (mem_intercalate other).2 ⟨field, inside, feed⟩)

theorem readTabbed_flatMap (whole : ∀ record ∈ records, Whole record) :
    Listing.readTabbed (records.flatMap Listing.tabbedLine) =
      records.map (fun record => splitAt '\t' (dropReturn (['\t'].intercalate record))) := by
  have other : '\n' ≠ '\t' := by decide
  have inside : ∀ record ∈ records, '\n' ∉ ['\t'].intercalate record := by
    intro record member feed
    obtain ⟨field, own, feed⟩ := (mem_intercalate other).1 feed
    exact (whole record member field own).2 feed
  have read := lines_flatMap inside
  unfold Listing.readTabbed Listing.tabbedLine
  rw [read, List.map_map]
  rfl

-- The fields that are read are the record's own just when no carriage return was taken for a part
-- of the line's end.
theorem splitAt_dropReturn_iff (ne : record ≠ []) (whole : Whole record) :
    splitAt '\t' (dropReturn (['\t'].intercalate record)) = record ↔
      ∀ field ∈ record.getLast?, field.getLast? ≠ some '\r' := by
  have other : '\r' ≠ '\t' := by decide
  have kept : dropReturn (['\t'].intercalate record) = ['\t'].intercalate record ↔
      ∀ field ∈ record.getLast?, field.getLast? ≠ some '\r' := by
    rw [dropReturn_eq_iff, Ne, getLast?_intercalate other, not_exists]
    exact forall_congr' fun field => not_and
  rw [← kept, splitAt_eq_splitOn]
  constructor
  · intro same
    have joined : ['\t'].intercalate ((dropReturn (['\t'].intercalate record)).splitOn '\t') =
        dropReturn (['\t'].intercalate record) := List.intercalate_splitOn '\t'
    rw [same] at joined
    exact joined.symm
  · intro same
    rw [same]
    exact List.splitOn_intercalate '\t' (fun field member => (whole field member).1) ne

theorem readTabbed_flatMap_eq_iff_of_whole (ne : ∀ record ∈ records, record ≠ [])
    (whole : ∀ record ∈ records, Whole record) :
    Listing.readTabbed (records.flatMap Listing.tabbedLine) = records ↔
      ∀ record ∈ records, ∀ field ∈ record.getLast?, field.getLast? ≠ some '\r' := by
  have self : records.map id = records := List.map_id records
  rw [readTabbed_flatMap whole]
  conv_lhs => rhs; rw [← self]
  rw [List.map_inj_left]
  exact forall₂_congr fun record member =>
    splitAt_dropReturn_iff (ne record member) (whole record member)

-- What is read is whole whatever the text is, so records that come back were whole.
theorem readTabbed_flatMap_eq_iff (ne : ∀ record ∈ records, record ≠ []) :
    Listing.readTabbed (records.flatMap Listing.tabbedLine) = records ↔
      ∀ record ∈ records, Separable record := by
  constructor
  · intro same record member
    have whole : ∀ record ∈ records, Whole record := fun record member =>
      whole_of_mem_readTabbed (same.symm ▸ member)
    have last := (readTabbed_flatMap_eq_iff_of_whole ne whole).1 same
    exact ⟨whole record member, last record member⟩
  · intro separable
    have whole : ∀ record ∈ records, Whole record := fun record member =>
      (separable record member).whole
    exact (readTabbed_flatMap_eq_iff_of_whole ne whole).2 fun record member =>
      (separable record member).last

end Records

-- What is rendered but not stored is made of letters, digits and a few signs.
theorem Value.mem_render {c : Char} (v : Value) (cut : c ∈ ['\t', '\n', '\r']) :
    c ∈ v.render ↔ c ∈ v.storedText := by
  have apart : ∀ text ∈ ["NULL", "-0123456789", "0123456789.-infNaN", "<blob ", "0123456789",
      " bytes>"], c ∉ text.toList := by
    simp only [List.mem_cons, List.not_mem_nil, or_false] at cut
    rcases cut with rfl | rfl | rfl <;> decide
  cases v with
  | text t => rfl
  | null => exact iff_of_false (apart "NULL" (by decide)) List.not_mem_nil
  | integer n =>
    exact iff_of_false (fun member => apart _ (by decide) (mem_toString_int member))
      List.not_mem_nil
  | real x =>
    exact iff_of_false (fun member => apart _ (by decide) (mem_fixedText member)) List.not_mem_nil
  | blob size =>
    refine iff_of_false (fun member => ?_) List.not_mem_nil
    rcases List.mem_append.1 member with front | unit
    · rcases List.mem_append.1 front with name | digits
      · exact apart "<blob " (by decide) name
      · exact apart "0123456789" (by decide) (mem_toDigits_ten digits)
    · exact apart " bytes>" (by decide) unit

theorem Value.getLast?_render (v : Value) :
    v.render.getLast? = some '\r' ↔ v.storedText.getLast? = some '\r' := by
  have among := v.mem_render (c := '\r') (by decide)
  cases v with
  | text t => rfl
  | null | integer | real | blob =>
    refine iff_of_false (fun last => ?_) nofun
    exact List.not_mem_nil (among.1 (List.mem_of_getLast? last))

theorem separable_map_iff {α : Type} (field : α → List Char) (cells : List α) :
    Separable (cells.map field) ↔ (∀ cell ∈ cells, '\t' ∉ field cell ∧ '\n' ∉ field cell) ∧
      ∀ cell ∈ cells.getLast?, (field cell).getLast? ≠ some '\r' := by
  rw [separable_iff, Whole, List.forall_mem_map, List.getLast?_map, Option.forall_mem_map]

theorem separable_map_render (row : List Value) :
    Separable (row.map Value.render) ↔ Separable (row.map Value.storedText) := by
  rw [separable_map_iff, separable_map_iff]
  refine and_congr (forall₂_congr fun v _ => ?_) (forall₂_congr fun v _ => ?_)
  · exact and_congr (not_congr (v.mem_render (by decide))) (not_congr (v.mem_render (by decide)))
  · exact not_congr v.getLast?_render

/-- **Tab-separated values read back.** A result with at least one column is printed in lines of as
many fields as there are columns. Cut at line ends and tabs, the text gives back the names and in
order the rows of rendered values just when no name and no stored text has a tab or a line feed in
it, or a carriage return at the end of its line. Values of other types never stand in the way. -/
theorem readTabbed_report_iff_separable (l : Listing) (wide : l.columns ≠ []) :
    (∀ record ∈ l.fields, record.length = l.columns.length) ∧
      (Listing.readTabbed (l.report true).toList = l.fields ↔ l.Separable) := by
  have length : ∀ record ∈ l.fields, record.length = l.columns.length := by
    intro record member
    rcases List.mem_cons.1 member with rfl | member
    · exact List.length_map _
    · obtain ⟨row, own, rfl⟩ := List.mem_map.1 member
      exact (List.length_map _).trans (l.even row own)
  have ne : ∀ record ∈ l.fields, record ≠ [] := by
    intro record member
    exact List.ne_nil_of_length_pos ((length record member).symm ▸ List.length_pos_iff.2 wide)
  have text : (l.report true).toList = l.fields.flatMap Listing.tabbedLine :=
    String.toList_ofList
  refine ⟨length, ?_⟩
  rw [text, readTabbed_flatMap_eq_iff ne, Listing.fields, List.forall_mem_cons,
    List.forall_mem_map]
  exact and_congr_right' (forall₂_congr fun row _ => separable_map_render row)

def typedListing : Listing where
  columns := ["n\r", "s", "z"]
  rows := [[.integer (-7), .text "a\rb\r", .null], [.text "", .text "", .text ""],
    [.real ⟨0x3FF8000000000000⟩, .blob 3, .text "é, \"x\""]]
  even := by decide

theorem readTabbed_report_iff_separable_typed :
    typedListing.columns ≠ [] ∧
      Listing.readTabbed (typedListing.report true).toList =
        [["n\r", "s", "z"], ["-7", "a\rb\r", "NULL"], ["", "", ""],
          ["1.500000", "<blob 3 bytes>", "é, \"x\""]].map (List.map String.toList) := by
  have wide : typedListing.columns ≠ [] := by decide
  have separable : typedListing.Separable := by decide
  refine ⟨wide, ?_⟩
  rw [(readTabbed_report_iff_separable typedListing wide).2.2 separable]
  decide +kernel

def singleText (text : String) : Listing where
  columns := ["c"]
  rows := [[.text text]]
  even := by simp

-- A tab makes two fields of a text, a line feed two lines, and a carriage return is lost.
theorem tabbed_cuts_texts :
    (singleText "a\tb").report true = "c\na\tb\n" ∧
      Listing.readTabbed ((singleText "a\tb").report true).toList = [[['c']], [['a'], ['b']]] ∧
      (singleText "a\tb").fields = [[['c']], [['a', '\t', 'b']]] ∧
      ∀ text ∈ ["a\tb", "a\nb", "a\r"],
        Listing.readTabbed ((singleText text).report true).toList ≠
          (singleText text).fields := by
  decide +kernel

end BurstProfiler.Report
