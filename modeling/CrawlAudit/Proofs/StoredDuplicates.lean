import CrawlAudit.Proofs.TableSessions
import CrawlAudit.Proofs.WrittenDocuments
import Mathlib.Data.List.Forall2

/-!
# Stored duplicates read back

A list of ids is stored as the text of a document and read back as the list. After a flush the
table of duplicates holds one row for each record, with the cells that the record has.
-/

namespace CrawlAudit

namespace Cell

theorem ofPlainItems?_integers (ns : List Int64) :
    ofPlainItems? (ns.map fun n => .int n.toInt) = some (ns.map .int) := by
  induction ns with
  | nil => rfl
  | cons n ns ih =>
      have hrange : Int64.minValue.toInt ≤ n.toInt ∧ n.toInt ≤ Int64.maxValue.toInt :=
        ⟨Int64.minValue_le_toInt n, Int64.toInt_le n⟩
      have hcell : ofJson (.int n.toInt) = .int n := by
        rw [ofJson, if_pos hrange, Int64.ofInt_toInt]
      rw [List.map_cons, ofPlainItems?, ofPlainJson?, hcell, ih]
      rfl

/-- Ids are read back from the text that they are stored as. -/
theorem listOfText?_idsDocument (ids : List Int64) :
    listOfText? (idsDocument ids).compact = some (.list (ids.map .int)) := by
  have hplain : Json.IsPlain 1 (idsDocument ids) :=
    .array (List.forall_mem_map.mpr fun id _ => .int (Json.isWord_toInt id))
  have hordered : (idsDocument ids).ordered = idsDocument ids := by
    rw [idsDocument, Json.ordered_array, List.map_map]
    rfl
  have hread := Json.read?_compact hplain (by decide)
  have hbracket : (idsDocument ids).compact.toList.head? = some '[' := by
    rw [Json.compact, String.toList_ofList]
    rfl
  rw [listOfText?, hbracket, if_pos BEq.rfl, hread, hordered, Option.bind_some, idsDocument,
    ofPlainJson?, ofPlainItems?_integers]
  rfl

end Cell

/-- The cells of a record by the names of their columns. -/
structure DuplicateRecord.IsRow (table : Table) (row : Row) (record : DuplicateRecord) : Prop where
  urlId : table.cell row "url_id" = .int record.urlId
  kind : table.cell row "content_type" = .text record.kind.name
  filled : ∃ n, table.cell row "filled_nb" = .int n ∧ n.toInt = record.filled
  duplicates : ∃ n, table.cell row "duplicates_nb" = .int n ∧ n.toInt = record.duplicates
  isFirst : table.cell row "is_first" = .int (if record.isFirst then 1 else 0)
  others : table.cell row "duplicate_urls" = .list (record.others.map .int)

namespace RecordTables

theorem toInt_ofNat {n : Nat} (h : n ≤ Int64.maxValue.toInt) : (Int64.ofNat n).toInt = n := by
  have hmax : Int64.maxValue.toInt = 9223372036854775807 := rfl
  exact Int64.toInt_ofNat_of_lt (by omega)

theorem toCell_name (kind : ContentKind) :
    (StoredValue.text kind.name).toCell = .text kind.name := by
  cases kind <;> rfl

theorem isRow_duplicateRow (tables : RecordTables) (stamp : Int64) {record : DuplicateRecord}
    (hfilled : record.filled ≤ Int64.maxValue.toInt)
    (hduplicates : record.duplicates ≤ Int64.maxValue.toInt) :
    DuplicateRecord.IsRow tables.duplicateTable.toTable
      ((duplicateRow stamp record).map StoredValue.toCell) record where
  urlId := rfl
  kind := toCell_name record.kind
  filled := ⟨_, rfl, toInt_ofNat hfilled⟩
  duplicates := ⟨_, rfl, toInt_ofNat hduplicates⟩
  isFirst := rfl
  others := by
    change (Cell.listOfText? _).getD _ = _
    rw [Cell.listOfText?_idsDocument]
    rfl

end RecordTables

namespace TableSink

/-- The table of duplicates holds one row for each of these records and nothing else. -/
def HoldsDuplicates (store : TableStore) (records : List DuplicateRecord) : Prop :=
  ∃ table, store.table? "content_duplicates" = some table ∧
    List.Forall₂ (DuplicateRecord.IsRow table) table.rows records

/-- In a new database the records that were written are read back after a flush, provided that
they are about different contents and their counts fit a column. -/
theorem holdsDuplicates_flushAt (stamp time : Int64) {records : List DuplicateRecord}
    (hslots : records.Pairwise fun a b => ¬a.SameSlot b)
    (hcounts : ∀ r ∈ records, r.filled ≤ Int64.maxValue.toInt ∧
      r.duplicates ≤ Int64.maxValue.toInt) :
    let result := ((create .empty stamp).writeDuplicates records).flushAt time
    result.1 = .ok () ∧ HoldsDuplicates result.2.tables.toDatabase.toStore records := by
  intro result
  have hrows : result.2.tables.duplicates = records.map (RecordTables.duplicateRow time) := by
    change records.foldl (RecordTables.putDuplicate time) [] = _
    rw [RecordTables.foldl_putDuplicate, DuplicateRecord.latest_eq_self hslots]
    rfl
  refine ⟨rfl, result.2.tables.duplicateTable.toTable, rfl, ?_⟩
  change List.Forall₂ _ (result.2.tables.duplicates.map _) records
  rw [hrows, List.map_map, List.forall₂_map_left_iff, List.forall₂_same]
  intro record hrecord
  obtain ⟨hfilled, hduplicates⟩ := hcounts record hrecord
  exact RecordTables.isRow_duplicateRow result.2.tables time hfilled hduplicates

theorem holdsDuplicates_flushAt_of_extreme_ids :
    let records : List DuplicateRecord :=
      [⟨Int64.minValue, .title, 1, 2, true, [Int64.maxValue, -1, 0]⟩,
        ⟨Int64.minValue, .h1, 9223372036854775807, 0, false, []⟩,
        ⟨Int64.maxValue, .title, 1, 2, false, [Int64.minValue]⟩]
    let result := ((create .empty 0).writeDuplicates records).flushAt 1700000000
    records.Pairwise (fun a b => ¬a.SameSlot b) ∧
      (∀ r ∈ records, r.filled ≤ Int64.maxValue.toInt ∧ r.duplicates ≤ Int64.maxValue.toInt) ∧
      result.1 = .ok () ∧ HoldsDuplicates result.2.tables.toDatabase.toStore records := by
  intro records result
  have hslots : records.Pairwise fun a b => ¬a.SameSlot b := by decide
  have hcounts : ∀ r ∈ records, r.filled ≤ Int64.maxValue.toInt ∧
      r.duplicates ≤ Int64.maxValue.toInt := by
    decide
  exact ⟨hslots, hcounts, holdsDuplicates_flushAt 0 1700000000 hslots hcounts⟩

end TableSink

end CrawlAudit
