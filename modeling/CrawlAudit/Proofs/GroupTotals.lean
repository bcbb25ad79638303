import CrawlAudit.Proofs.IntegerSums
import CrawlAudit.Proofs.NestedPaths
import CrawlAudit.Proofs.QueryRuns

/-!
# Totals of groups

Grouping neither loses nor repeats a row: where nothing saturates, what the groups show of a
counter sums to what the ungrouped query shows of it.
-/

namespace CrawlAudit

namespace Order.IsPartition

variable {α : Type} {alike : α → α → Bool} {xs : List α} {parts : List (List α)}

theorem sublist_of_mem (h : IsPartition alike xs parts) {c : List α} (hc : c ∈ parts) :
    c.Sublist xs := by
  obtain ⟨a, ha⟩ := List.exists_mem_of_ne_nil c (h.ne_nil c hc)
  rw [h.eq_filter c hc a ha]
  exact List.filter_sublist

theorem sum_sum_map (h : IsPartition alike xs parts) (f : α → Int) :
    (parts.map fun c => (c.map f).sum).sum = (xs.map f).sum := by
  calc
    _ = ((parts.flatten).map f).sum := by
      rw [List.map_flatten, List.sum_flatten, List.map_map]
      rfl
    _ = (xs.map f).sum := (h.perm.map f).sum_eq

end Order.IsPartition

/-- The integer that nested counters show for a field. -/
def numberAt? (field : String) (counters : Json.Members) : Option Int :=
  (Nesting.at? (Nesting.segments field) counters).bind Json.int?

/-- A field of its own among some fields: none of the others is above or below it. -/
def IsSeparate (field : String) (fields : List String) : Prop :=
  ∀ other ∈ fields, FieldCatalog.isUnder field other = false ∧
    FieldCatalog.isUnder other field = false

instance (field : String) (fields : List String) : Decidable (IsSeparate field fields) :=
  inferInstanceAs (Decidable (∀ other ∈ fields, FieldCatalog.isUnder field other = false ∧
    FieldCatalog.isUnder other field = false))

theorem numberAt?_showCounters {catalog : FieldCatalog} {fields : List String} {field : String}
    (hfield : field ∈ fields) (hseparate : IsSeparate field fields)
    (hlist : catalog.isList field = false) (lookup : String → Option Cell) :
    numberAt? field (catalog.showCounters fields lookup) =
      some (FieldCatalog.shownNumber (lookup field)).toInt := by
  rw [numberAt?, FieldCatalog.showCounters,
    Nesting.at?_nest (fun f => catalog.showCounter f (lookup f)) hfield hseparate,
    FieldCatalog.showCounter, hlist]
  rfl

theorem Table.numberAt?_sum {table : Table} {catalog : FieldCatalog} {fields : List String}
    {field : String} (hfield : field ∈ fields) (hseparate : IsSeparate field fields)
    (hlist : catalog.isList field = false) {lookup : String → Option Cell} {rows : List Row}
    (hlookup : lookup field = some (Cell.sum (table.columnCells rows field)))
    (hcells : Cell.IsIntegral (table.columnCells rows field)) :
    numberAt? field (catalog.showCounters fields lookup) =
      some (rows.map fun row => (table.cell row field).amount).sum := by
  rw [numberAt?_showCounters hfield hseparate hlist, hlookup, Cell.shownNumber_sum hcells,
    columnCells, List.map_map]
  rfl

namespace MetricsQuery

variable (query : MetricsQuery) (store : TableStore) (settings : QuerySettings) (table : Table)
variable (groupBy : List String) (field : String)

/-- What the groups show of a counter sums to what the query shows of it without its grouping. -/
theorem run_sum_groups (htable : store.table? TableStore.crawlTable = some table)
    (hvalid : settings.validate query.catalog table query.check = .ok ())
    (hgroupBy : settings.groupBy = some groupBy) (hne : groupBy ≠ [])
    (hkeeps : query.keeps = keepAll)
    (hshown : field ∈ settings.shownFields query.catalog table [])
    (hlist : query.catalog.isList field = false) (hkey : field ∉ groupBy)
    (hseparate : IsSeparate field (settings.shownFields query.catalog table []))
    (hcells : Cell.IsIntegral (table.columnCells (table.select settings.filter) field)) :
    ∃ (results : List GroupResult) (counters : Json.Members) (totals : List Int),
      query.run store settings = .ok (.grouped results) ∧
      query.run store { settings with groupBy := none } = .ok (.aggregate counters) ∧
      (results.map fun r => numberAt? field r.counters) = totals.map some ∧
      numberAt? field counters = some totals.sum := by
  let rows := table.select settings.filter
  let ranked := table.rankedClasses groupBy (settings.sort.getD []) query.keeps rows
  have hparts := table.isPartition_alike groupBy rows
  have hranked : ranked.Perm (Order.classes (table.alike groupBy) rows) := by
    refine (Order.perm_sort _ _).trans ?_
    rw [Table.keptClasses, hkeeps]
    exact .of_eq (List.filter_true _)
  let total (c : List Row) : Int := (c.map fun row => (table.cell row field).amount).sum
  refine ⟨_, _, ranked.map total,
    query.run_eq_grouped htable hvalid hgroupBy hne, query.run_ungrouped htable hvalid, ?_, ?_⟩
  · rw [List.map_map, List.map_map]
    refine List.map_congr_left fun c hc => ?_
    have hsub : c.Sublist rows := hparts.sublist_of_mem (hranked.mem_iff.mp hc)
    exact Table.numberAt?_sum hshown hseparate hlist
      (congrArg some (table.classValue_of_notMem hkey c)) (hcells.of_sublist (hsub.map _))
  · have hsum : (ranked.map total).sum = total rows := by
      rw [(hranked.map total).sum_eq]
      exact hparts.sum_sum_map fun row => (table.cell row field).amount
    rw [hsum]
    exact Table.numberAt?_sum hshown hseparate hlist rfl hcells

/-- A counter with a text, a list, truth values and nulls among its cells, beside a counter with a
double, in groups of short rows and of a missing column. -/
theorem run_sum_groups_of_mixed :
    let table : Table := ⟨["host", "metadata.h1.filled", "pages_nb"],
      [[.text "b", .int 4, .float .one], [.text "a", .bool true, .int 1], [.text "b"],
        [.null, .text "7", .int 2], [.text "a", .list [.int 3]], [.text "b", .int (-9)]]⟩
    let settings : QuerySettings := { QuerySettings.default with
      fields := some ["pages_nb", "metadata.h1"], groupBy := some ["host", "index"] }
    let query : MetricsQuery := ⟨.crawl, .strict, keepAll⟩
    let store : TableStore := [(TableStore.crawlTable, table)]
    ∃ (results : List GroupResult) (counters : Json.Members) (totals : List Int),
      query.run store settings = .ok (.grouped results) ∧
      query.run store { settings with groupBy := none } = .ok (.aggregate counters) ∧
      (results.map fun r => numberAt? "metadata.h1.filled" r.counters) = totals.map some ∧
      numberAt? "metadata.h1.filled" counters = some totals.sum := by
  intro table settings query store
  have hshown : "metadata.h1.filled" ∈ settings.shownFields query.catalog table [] := by
    decide +kernel
  have hseparate : IsSeparate "metadata.h1.filled"
      (settings.shownFields query.catalog table []) := by decide +kernel
  have hcells : Cell.IsIntegral
      (table.columnCells (table.select settings.filter) "metadata.h1.filled") := by decide +kernel
  exact run_sum_groups query store settings table ["host", "index"] "metadata.h1.filled" rfl rfl
    rfl (by decide) rfl hshown rfl (by decide) hseparate hcells

end MetricsQuery

end CrawlAudit
