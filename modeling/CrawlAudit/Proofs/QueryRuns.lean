import CrawlAudit.Proofs.Grouping

/-!
# Runs of queries

What a query on a table gives once its fields have passed the check: the classes of the selected
rows, or the sums over all of them.
-/

namespace CrawlAudit

theorem FieldCatalog.validate_eq_ok_iff {catalog : FieldCatalog} {fields columns : List String}
    {check : FieldCheck} :
    catalog.validate fields columns check = .ok () ↔
      check = .advisory ∨
        ∀ f ∈ fields, (catalog.isKnown f || columns.contains f) = true := by
  cases check with
  | advisory => simp [validate]
  | strict =>
      have hall : (fields.find? fun f => !(catalog.isKnown f || columns.contains f)) = none ↔
          ∀ f ∈ fields, (catalog.isKnown f || columns.contains f) = true := by
        rw [List.find?_eq_none]
        simp only [Bool.not_eq_true', Bool.not_eq_false]
      rw [← hall]
      cases hfound : fields.find? fun f => !(catalog.isKnown f || columns.contains f) with
      | none => simp only [validate, hfound, or_true]
      | some field => simp only [validate, hfound, reduceCtorEq, or_self]

theorem FieldCatalog.validate_of_subset {catalog : FieldCatalog} {fields fields' : List String}
    {columns : List String} {check : FieldCheck}
    (h : catalog.validate fields columns check = .ok ()) (hsub : fields' ⊆ fields) :
    catalog.validate fields' columns check = .ok () := by
  rw [validate_eq_ok_iff] at h ⊢
  exact h.imp_right fun hknown f hf => hknown f (hsub hf)

theorem FieldCatalog.showCounters_congr {catalog : FieldCatalog} {fields : List String}
    {lookup lookup' : String → Option Cell} (h : ∀ f ∈ fields, lookup f = lookup' f) :
    catalog.showCounters fields lookup = catalog.showCounters fields lookup' := by
  rw [showCounters, showCounters]
  congr 1
  refine List.map_congr_left fun f hf => ?_
  rw [h f hf]

namespace Table

variable (table : Table)

theorem total_eq_classGroup (rows : List Row) : table.total rows = table.classGroup [] rows := by
  rw [total, sums_eq, classGroup]
  rfl

/-- The cells of a column in some rows. -/
def columnCells (rows : List Row) (field : String) : List Cell :=
  rows.map fun row => table.cell row field

theorem get_total (rows : List Row) (field : String) :
    (table.total rows).get field = Cell.sum (table.columnCells rows field) := by
  rw [total_eq_classGroup, get_classGroup, classValue, if_neg List.not_mem_nil]
  rfl

theorem classValue_of_notMem {groupBy : List String} {field : String} (h : field ∉ groupBy)
    (rows : List Row) :
    table.classValue groupBy rows field = Cell.sum (table.columnCells rows field) :=
  if_neg h

theorem mem_rankedClasses {groupBy : List String} {entries : List (String × Direction)}
    {keeps : Group → Bool} {rows c : List Row} :
    c ∈ table.rankedClasses groupBy entries keeps rows ↔
      c ∈ Order.classes (table.alike groupBy) rows ∧
        keeps (table.classGroup groupBy c) = true := by
  rw [rankedClasses, Order.mem_sort, keptClasses, List.mem_filter]

theorem pairwise_rankedClasses (groupBy : List String) (entries : List (String × Direction))
    (keeps : Group → Bool) (rows : List Row) :
    (table.rankedClasses groupBy entries keeps rows).Pairwise fun c d =>
      table.classOrder groupBy entries c d = .lt := by
  obtain ⟨runs, -, hperm, hkeys⟩ := table.exists_kept_runs groupBy keeps rows
  rw [rankedClasses, classOrder, Order.sort_compareLex hkeys hperm]
  exact Order.pairwise_sort_compareLex hkeys

theorem select_sublist (filter : Option Filter) : (table.select filter).Sublist table.rows := by
  cases filter with
  | none => exact List.Sublist.refl _
  | some f => exact List.filter_sublist

end Table

theorem QuerySettings.validate_ungrouped {settings : QuerySettings} {catalog : FieldCatalog}
    {table : Table} {check : FieldCheck}
    (h : settings.validate catalog table check = .ok ()) :
    { settings with groupBy := none }.validate catalog table check = .ok () := by
  refine FieldCatalog.validate_of_subset h ?_
  intro f hf
  simp only [referencedFields, filterFields, List.mem_append, Option.getD_none, List.not_mem_nil,
    or_false] at hf ⊢
  exact hf.imp_left fun h => h.imp_left Or.inl

namespace MetricsQuery

variable (query : MetricsQuery) {store : TableStore} {settings : QuerySettings} {table : Table}

theorem run_eq_bind (htable : store.table? TableStore.crawlTable = some table) :
    query.run store settings =
      (settings.validate query.catalog table query.check).bind fun _ =>
        .ok (query.result settings table) := by
  rw [run, TableStore.table, htable]
  rfl

theorem run_eq_result (htable : store.table? TableStore.crawlTable = some table)
    (hvalid : settings.validate query.catalog table query.check = .ok ()) :
    query.run store settings = .ok (query.result settings table) := by
  rw [query.run_eq_bind htable, hvalid]
  rfl

theorem result_eq_map {groupBy : List String} (hgroupBy : settings.groupBy = some groupBy)
    (hne : groupBy ≠ []) :
    query.result settings table = .grouped ((query.orderedGroups settings table groupBy).map
      (query.showGroup groupBy (settings.shownFields query.catalog table []))) := by
  obtain ⟨key, keys, rfl⟩ := List.exists_cons_of_ne_nil hne
  rw [result, hgroupBy]

theorem result_eq_grouped {groupBy : List String} (hgroupBy : settings.groupBy = some groupBy)
    (hne : groupBy ≠ []) :
    query.result settings table =
      .grouped ((table.rankedClasses groupBy (settings.sort.getD []) query.keeps
        (table.select settings.filter)).map (query.showClass settings table groupBy)) := by
  rw [query.result_eq_map hgroupBy hne, orderedGroups_eq, List.map_map]
  congr 2
  funext rows
  exact query.showGroup_classGroup settings table groupBy rows

theorem result_eq_aggregate (hgroupBy : settings.groupBy.getD [] = []) :
    query.result settings table =
      .aggregate (query.catalog.showCounters (settings.shownFields query.catalog table [])
        fun f => some (Cell.sum (table.columnCells (table.select settings.filter) f))) := by
  have hnone : settings.groupBy = none ∨ settings.groupBy = some [] := by
    cases hs : settings.groupBy with
    | none => exact Or.inl rfl
    | some keys =>
        rw [hs] at hgroupBy
        exact Or.inr (congrArg some hgroupBy)
  simp only [← Table.get_total]
  rcases hnone with h | h
  · rw [result, h]
  · rw [result, h]

/-- A grouped query shows the classes that are kept. -/
theorem run_eq_grouped {groupBy : List String}
    (htable : store.table? TableStore.crawlTable = some table)
    (hvalid : settings.validate query.catalog table query.check = .ok ())
    (hgroupBy : settings.groupBy = some groupBy) (hne : groupBy ≠ []) :
    query.run store settings =
      .ok (.grouped ((table.rankedClasses groupBy (settings.sort.getD []) query.keeps
        (table.select settings.filter)).map (query.showClass settings table groupBy))) := by
  rw [query.run_eq_result htable hvalid, query.result_eq_grouped hgroupBy hne]

theorem run_ungrouped (htable : store.table? TableStore.crawlTable = some table)
    (hvalid : settings.validate query.catalog table query.check = .ok ()) :
    query.run store { settings with groupBy := none } =
      .ok (.aggregate (query.catalog.showCounters (settings.shownFields query.catalog table [])
        fun f => some (Cell.sum (table.columnCells (table.select settings.filter) f)))) := by
  rw [query.run_eq_result htable (QuerySettings.validate_ungrouped hvalid),
    query.result_eq_aggregate rfl]
  rfl

end MetricsQuery

end CrawlAudit
