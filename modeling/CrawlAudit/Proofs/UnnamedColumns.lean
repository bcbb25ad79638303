import CrawlAudit.Proofs.FilterTrees
import CrawlAudit.Proofs.QueryRuns
import Mathlib.Data.List.Forall2

/-!
# Columns that a query does not name

A query gives on a table what it gives on the table cut down to the columns that it names. So two
tables of the same columns that agree on these give the same result, or the same fault, whatever
stands in the others.
-/

namespace CrawlAudit

namespace QuerySettings

/-- A field that is named among the counters to show, in the grouping, in the sorting or in a test
of the filter, at any depth. -/
def Names (settings : QuerySettings) (catalog : FieldCatalog) (field : String) : Prop :=
  (∃ fields ∈ settings.fields, field ∈ catalog.expand fields) ∨
    (∃ keys ∈ settings.groupBy, field ∈ keys) ∨
    (∃ entries ∈ settings.sort, ∃ entry ∈ entries, entry.1 = field) ∨
    ∃ filter ∈ settings.filter, ∃ test, filter.root.HasTest test ∧ test.field = field

def namedFields (settings : QuerySettings) (catalog : FieldCatalog) : List String :=
  (settings.fields.map catalog.expand).getD [] ++ settings.groupBy.getD [] ++
    (settings.sort.getD []).map Prod.fst ++ settings.filterFields

variable {settings : QuerySettings} {catalog : FieldCatalog} {field : String}

theorem mem_filterFields :
    field ∈ settings.filterFields ↔
      ∃ filter ∈ settings.filter, ∃ test, filter.root.HasTest test ∧ test.field = field := by
  cases h : settings.filter with
  | none => simp [filterFields, h]
  | some filter => simp [filterFields, h, FilterNode.mem_fields_iff]

theorem mem_getD_nil {α : Type} {a : α} {element : Option (List α)} :
    a ∈ element.getD [] ↔ ∃ as ∈ element, a ∈ as := by
  cases element <;> simp

theorem mem_sortFields :
    field ∈ (settings.sort.getD []).map Prod.fst ↔
      ∃ entries ∈ settings.sort, ∃ entry ∈ entries, entry.1 = field := by
  cases settings.sort <;> simp

theorem mem_namedFields :
    field ∈ settings.namedFields catalog ↔ settings.Names catalog field := by
  have hfields : field ∈ (settings.fields.map catalog.expand).getD [] ↔
      ∃ fields ∈ settings.fields, field ∈ catalog.expand fields := by
    cases settings.fields <;> simp
  rw [namedFields, List.mem_append, List.mem_append, List.mem_append, hfields, mem_getD_nil,
    mem_sortFields, mem_filterFields, or_assoc, or_assoc]
  rfl

theorem namedFields_subset {names : List String} (h : settings.namedFields catalog ⊆ names) :
    (∀ fields ∈ settings.fields, catalog.expand fields ⊆ names) ∧
      settings.groupBy.getD [] ⊆ names ∧ (settings.sort.getD []).map Prod.fst ⊆ names ∧
      ∀ filter ∈ settings.filter, filter.root.fields ⊆ names := by
  simp only [namedFields, List.append_subset] at h
  obtain ⟨⟨⟨hfields, hkeys⟩, hsort⟩, hfilter⟩ := h
  refine ⟨fun fields h => ?_, hkeys, hsort, fun filter h => ?_⟩
  · rwa [Option.mem_def.mp h] at hfields
  · rwa [filterFields, Option.mem_def.mp h] at hfilter

end QuerySettings

/-- A choice of groups looks at the values of some columns only. -/
def Group.LooksAt (fields : List String) (keeps : Group → Bool) : Prop :=
  ∀ g g' : Group, (∀ f ∈ fields, g.get f = g'.get f) → keeps g = keeps g'

theorem MetricsQuery.looksAt_keepAll : Group.LooksAt [] keepAll :=
  fun _ _ _ => rfl

theorem MetricsQuery.looksAt_keepAbove (pages : Int64) :
    Group.LooksAt ["pages_nb"] (keepAbove pages) := by
  intro g g' h
  rw [keepAbove, keepAbove, h "pages_nb" (List.mem_singleton_self _)]

namespace Table

/-- The cells of two rows agree in some columns of their tables. -/
def Agree (named : String → Prop) (table table' : Table) (row row' : Row) : Prop :=
  ∀ f, named f → table.cell row f = table'.cell row' f

/-- Whether a row of the table is selected. -/
def selects (table : Table) (filter : Option Filter) (row : Row) : Bool :=
  filter.all fun f => f.root.accepts (table.cell row)

/-- The cells of a row in some columns. -/
def view (table : Table) (names : List String) (row : Row) : Row :=
  names.map (table.cell row)

/-- The table cut down to some columns. A column that it does not have is made of nulls. -/
def project (table : Table) (names : List String) : Table :=
  ⟨names, table.rows.map (table.view names)⟩

variable {table table' : Table} {names groupBy : List String}

theorem cell_view {field : String} (h : field ∈ names) (row : Row) :
    (table.project names).cell (table.view names row) field = table.cell row field := by
  have hsome : (names.findIdx? (· == field)).isSome := by
    rw [List.findIdx?_isSome, List.any_eq_true]
    exact ⟨field, h, beq_self_eq_true field⟩
  obtain ⟨i, hi⟩ := Option.isSome_iff_exists.mp hsome
  obtain ⟨hlt, hname, -⟩ := List.findIdx?_eq_some_iff_getElem.mp hi
  have hindex : (table.project names).columnIndex? field = some i := hi
  rw [cell, hindex, cellAt, Row.cell, view, List.getD_eq_getElem?_getD, List.getElem?_map,
    List.getElem?_eq_getElem hlt, eq_of_beq hname]
  rfl

theorem view_eq_view_iff {row row' : Row} :
    table.view names row = table'.view names row' ↔ Agree (· ∈ names) table table' row row' :=
  List.map_inj_left

theorem map_view_eq_iff {rows rows' : List Row} :
    rows.map (table.view names) = rows'.map (table'.view names) ↔
      List.Forall₂ (Agree (· ∈ names) table table') rows rows' := by
  rw [← List.forall₂_eq_eq_eq, List.forall₂_map_left_iff, List.forall₂_map_right_iff]
  simp only [view_eq_view_iff]

theorem select_eq_filter (table : Table) (filter : Option Filter) :
    table.select filter = table.rows.filter (table.selects filter) := by
  cases filter with
  | none => exact (List.filter_true _).symm
  | some f => rfl

theorem selects_view {filter : Option Filter} (h : ∀ f ∈ filter, f.root.fields ⊆ names)
    (row : Row) :
    (table.project names).selects filter (table.view names row) = table.selects filter row := by
  cases filter with
  | none => rfl
  | some f => exact FilterNode.accepts_congr fun field hfield => cell_view (h f rfl hfield) row

theorem select_project {filter : Option Filter} (h : ∀ f ∈ filter, f.root.fields ⊆ names) :
    (table.project names).select filter = (table.select filter).map (table.view names) := by
  rw [select_eq_filter, select_eq_filter, project, List.filter_map]
  exact congrArg _ (List.filter_congr fun row _ => selects_view h row)

theorem map_selects_project {filter : Option Filter} (h : ∀ f ∈ filter, f.root.fields ⊆ names) :
    (table.project names).rows.map ((table.project names).selects filter) =
      table.rows.map (table.selects filter) := by
  rw [project, List.map_map]
  exact List.map_congr_left fun row _ => selects_view h row

theorem columnCells_project {field : String} (h : field ∈ names) (rows : List Row) :
    (table.project names).columnCells (rows.map (table.view names)) field =
      table.columnCells rows field := by
  rw [columnCells, columnCells, List.map_map]
  exact List.map_congr_left fun row _ => cell_view h row

theorem classValue_project {field : String} (h : field ∈ names) (rows : List Row) :
    (table.project names).classValue groupBy (rows.map (table.view names)) field =
      table.classValue groupBy rows field := by
  by_cases hkey : field ∈ groupBy
  · cases rows with
    | nil =>
        have hnull (t : Table) : t.cell [] field = .null := by
          rw [cell]
          cases t.columnIndex? field <;> rfl
        rw [classValue, classValue, if_pos hkey, if_pos hkey]
        exact (hnull _).trans (hnull _).symm
    | cons row rows =>
        rw [List.map_cons, classValue_cons_of_mem _ _ hkey, classValue_cons_of_mem _ _ hkey,
          cell_view h]
  · rw [classValue_of_notMem _ hkey, classValue_of_notMem _ hkey, columnCells_project h]

theorem alike_project (h : groupBy ⊆ names) (a b : Row) :
    (table.project names).alike groupBy (table.view names a) (table.view names b) =
      table.alike groupBy a b := by
  rw [alike, alike, Bool.eq_iff_iff, List.all_eq_true, List.all_eq_true]
  refine forall₂_congr fun field hfield => ?_
  rw [cell_view (h hfield), cell_view (h hfield)]

theorem classOrder_project {entries : List (String × Direction)} (hkeys : groupBy ⊆ names)
    (hsort : entries.map Prod.fst ⊆ names) (c d : List Row) :
    (table.project names).classOrder groupBy entries (c.map (table.view names))
        (d.map (table.view names)) =
      table.classOrder groupBy entries c d := by
  have hentries : (table.project names).classSortOrder groupBy entries
      (c.map (table.view names)) (d.map (table.view names)) =
        table.classSortOrder groupBy entries c d := by
    refine Order.lexicographic_congr fun e he => ?_
    have hname : e.1 ∈ names := hsort (List.mem_map_of_mem he)
    rw [classValue_project hname, classValue_project hname]
  have hfields : (table.project names).classKeyOrder groupBy
      (c.map (table.view names)) (d.map (table.view names)) =
        table.classKeyOrder groupBy c d := by
    refine Order.lexicographic_congr fun f hf => ?_
    rw [classValue_project (hkeys hf), classValue_project (hkeys hf)]
  rw [classOrder, classOrder, compareLex, compareLex, hentries, hfields]

theorem keeps_classGroup_project {hookFields : List String} {keeps : Group → Bool}
    (hkeeps : Group.LooksAt hookFields keeps) (hhook : hookFields ⊆ names) (c : List Row) :
    keeps ((table.project names).classGroup groupBy (c.map (table.view names))) =
      keeps (table.classGroup groupBy c) := by
  refine hkeeps _ _ fun f hf => ?_
  rw [get_classGroup, get_classGroup, classValue_project (hhook hf)]

theorem rankedClasses_project {entries : List (String × Direction)} {hookFields : List String}
    {keeps : Group → Bool} (hkeys : groupBy ⊆ names) (hsort : entries.map Prod.fst ⊆ names)
    (hkeeps : Group.LooksAt hookFields keeps) (hhook : hookFields ⊆ names) (rows : List Row) :
    (table.project names).rankedClasses groupBy entries keeps (rows.map (table.view names)) =
      (table.rankedClasses groupBy entries keeps rows).map (List.map (table.view names)) := by
  have halike : (fun a b => (table.project names).alike groupBy (table.view names a)
      (table.view names b)) = table.alike groupBy :=
    funext₂ (alike_project hkeys)
  have horder : (fun c d => (table.project names).classOrder groupBy entries
      (c.map (table.view names)) (d.map (table.view names))) = table.classOrder groupBy entries :=
    funext₂ (classOrder_project hkeys hsort)
  rw [rankedClasses, rankedClasses, keptClasses, keptClasses, Order.classes_map, halike,
    List.filter_map, Order.sort_map, horder]
  refine congrArg (fun classes => (Order.sort _ classes).map _) ?_
  exact List.filter_congr fun c _ => keeps_classGroup_project hkeeps hhook c

end Table

namespace MetricsQuery

open Table

variable {query : MetricsQuery} {store store' : TableStore} {settings : QuerySettings}
variable {table table' : Table} {names fields hookFields : List String}

theorem showClass_project {groupBy : List String} (hfields : settings.fields = some fields)
    (hshown : query.catalog.expand fields ⊆ names) (hkeys : groupBy ⊆ names) (c : List Row) :
    query.showClass settings (table.project names) groupBy (c.map (table.view names)) =
      query.showClass settings table groupBy c := by
  simp only [showClass, QuerySettings.shownFields, hfields]
  congr 1
  · refine congrArg _ (List.map_congr_left fun f hf => ?_)
    rw [classValue_project (hkeys hf)]
  · refine FieldCatalog.showCounters_congr fun f hf => ?_
    rw [classValue_project (hshown hf)]

/-- A query looks at no other columns than those that it names. -/
theorem result_project (hfields : settings.fields = some fields)
    (hnames : settings.namedFields query.catalog ⊆ names)
    (hkeeps : Group.LooksAt hookFields query.keeps) (hhook : hookFields ⊆ names) :
    query.result settings (table.project names) = query.result settings table := by
  obtain ⟨hshown, hkeys, hsort, hfilter⟩ := QuerySettings.namedFields_subset hnames
  have hshown : query.catalog.expand fields ⊆ names := hshown fields hfields
  have hselect : (table.project names).select settings.filter =
      (table.select settings.filter).map (table.view names) := select_project hfilter
  by_cases hne : settings.groupBy.getD [] = []
  · rw [query.result_eq_aggregate hne, query.result_eq_aggregate hne, hselect]
    simp only [QuerySettings.shownFields, hfields]
    refine congrArg QueryResult.aggregate (FieldCatalog.showCounters_congr fun f hf => ?_)
    rw [columnCells_project (hshown hf)]
  · obtain ⟨groupBy, hgroupBy⟩ : ∃ groupBy, settings.groupBy = some groupBy :=
      Option.ne_none_iff_exists'.mp fun hnone => hne (by rw [hnone, Option.getD_none])
    rw [hgroupBy, Option.getD_some] at hkeys hne
    rw [query.result_eq_grouped hgroupBy hne, query.result_eq_grouped hgroupBy hne, hselect,
      rankedClasses_project hkeys hsort hkeeps hhook, List.map_map]
    exact congrArg QueryResult.grouped
      (List.map_congr_left fun c _ => showClass_project hfields hshown hkeys c)

/-- A column that a query names: in its settings, or the pages where they decide which groups are
kept. -/
def Names (query : MetricsQuery) (settings : QuerySettings) (field : String) : Prop :=
  settings.Names query.catalog field ∨
    (∃ pages, query.keeps = keepAbove pages) ∧ field = "pages_nb"

theorem exists_names (settings : QuerySettings)
    (hkeeps : query.keeps = keepAll ∨ ∃ pages, query.keeps = keepAbove pages) :
    ∃ names hookFields, (∀ f, f ∈ names ↔ query.Names settings f) ∧ hookFields ⊆ names ∧
      Group.LooksAt hookFields query.keeps := by
  by_cases habove : ∃ pages, query.keeps = keepAbove pages
  · obtain ⟨pages, hpages⟩ := habove
    refine ⟨settings.namedFields query.catalog ++ ["pages_nb"], ["pages_nb"], fun f => ?_,
      List.subset_append_right _ _, hpages ▸ looksAt_keepAbove pages⟩
    rw [List.mem_append, QuerySettings.mem_namedFields, List.mem_singleton, Names,
      and_iff_right ⟨pages, hpages⟩]
  · refine ⟨settings.namedFields query.catalog, [], fun f => ?_, List.nil_subset _,
      (hkeeps.resolve_right habove) ▸ looksAt_keepAll⟩
    rw [QuerySettings.mem_namedFields, Names, or_iff_left fun h => habove h.1]

/-- Where two tables of the same columns agree on the columns that a query names, row by row, it
selects the same rows, makes the same groups of them in the same order, and gives the same result
or fault. -/
theorem run_eq_of_agree (htable : store.table? TableStore.crawlTable = some table)
    (htable' : store'.table? TableStore.crawlTable = some table')
    (hcolumns : table.columns = table'.columns) (hfields : settings.fields = some fields)
    (hkeeps : query.keeps = keepAll ∨ ∃ pages, query.keeps = keepAbove pages)
    (hrows : List.Forall₂ (Agree (query.Names settings) table table') table.rows table'.rows) :
    table.rows.map (table.selects settings.filter) =
        table'.rows.map (table'.selects settings.filter) ∧
      List.Forall₂ (List.Forall₂ (Agree (query.Names settings) table table'))
        (table.rankedClasses (settings.groupBy.getD []) (settings.sort.getD []) query.keeps
          (table.select settings.filter))
        (table'.rankedClasses (settings.groupBy.getD []) (settings.sort.getD []) query.keeps
          (table'.select settings.filter)) ∧
      query.run store settings = query.run store' settings := by
  obtain ⟨names, hookFields, hmem, hhook, hlooks⟩ := exists_names settings hkeeps
  have hnames : settings.namedFields query.catalog ⊆ names := fun f hf =>
    (hmem f).mpr (Or.inl (QuerySettings.mem_namedFields.mp hf))
  have hagree : (fun f => f ∈ names) = query.Names settings := funext fun f => propext (hmem f)
  rw [← hagree] at hrows ⊢
  -- cut down to the columns that are named, the two tables are the same
  have hproject : table.project names = table'.project names :=
    congrArg (Table.mk names) (map_view_eq_iff.mpr hrows)
  obtain ⟨-, hkeys, hsort, hfilter⟩ := QuerySettings.namedFields_subset hnames
  refine ⟨?_, ?_, ?_⟩
  · rw [← map_selects_project hfilter, hproject, map_selects_project hfilter]
  · have hclasses := congrArg (fun t : Table => t.rankedClasses (settings.groupBy.getD [])
      (settings.sort.getD []) query.keeps (t.select settings.filter)) hproject
    simp only [select_project hfilter, rankedClasses_project hkeys hsort hlooks hhook] at hclasses
    rw [← List.forall₂_eq_eq_eq, List.forall₂_map_left_iff, List.forall₂_map_right_iff] at hclasses
    exact hclasses.imp fun _ _ h => map_view_eq_iff.mp h
  · have hresult : query.result settings table = query.result settings table' := by
      rw [← result_project hfields hnames hlooks hhook, hproject,
        result_project hfields hnames hlooks hhook]
    rw [query.run_eq_bind htable, query.run_eq_bind htable', hresult, QuerySettings.validate,
      hcolumns]
    rfl

/-- Two tables that differ in two columns and in the lengths of their rows, under a prefix of
counters, a filter two nodes deep and a threshold of pages. -/
theorem run_eq_of_agree_of_short_rows :
    let columns := ["host", "metadata.h1.filled", "depth", "pages_nb", "inlinks_nb", "title"]
    let table : Table := ⟨columns,
      [[.text "b", .int 4, .int 1, .int 5, .int 9, .text "x"], [.text "a", .null, .int 1, .int 7],
        [.text "b", .text "y", .int 2, .int 3], [.text "b", .int 1, .int 1, .float .one, .int 2]]⟩
    let table' : Table := ⟨columns,
      [[.text "b", .int 4, .int 1, .int 5], [.text "a", .null, .int 1, .int 7, .bool true, .null],
        [.text "b", .text "y", .int 2, .int 3, .list [.null]],
        [.text "b", .int 1, .int 1, .float .one, .int 8, .text "z", .int 0]]⟩
    let settings : QuerySettings := { QuerySettings.default with
      fields := some ["metadata.h1"], groupBy := some ["host"],
      sort := some [("pages_nb", .descending)],
      filter := some (.conjunction [.conjunction [.equality "depth" (.int 1)]]) }
    let query : MetricsQuery := ⟨.crawl, .strict, keepAbove 0⟩
    (table.columnCells table.rows "inlinks_nb").map Cell.isNull = [false, true, true, false] ∧
      (table'.columnCells table'.rows "inlinks_nb").map Cell.isNull =
        [true, false, false, false] ∧
      query.run [(TableStore.crawlTable, table)] settings =
        query.run [(TableStore.crawlTable, table')] settings := by
  intro columns table table' settings query
  let names := settings.namedFields query.catalog ++ ["pages_nb"]
  have hnames : ∀ f, query.Names settings f → f ∈ names := by
    rintro f (h | ⟨-, rfl⟩)
    · exact List.mem_append_left _ (QuerySettings.mem_namedFields.mpr h)
    · exact List.mem_append_right _ (List.mem_singleton_self _)
  have hview : table.rows.map (table.view names) = table'.rows.map (table'.view names) := rfl
  have hrows : List.Forall₂ (Agree (query.Names settings) table table') table.rows table'.rows :=
    (map_view_eq_iff.mp hview).imp fun _ _ h f hf => h f (hnames f hf)
  have htable : TableStore.table? [(TableStore.crawlTable, table)] TableStore.crawlTable =
    some table := rfl
  have htable' : TableStore.table? [(TableStore.crawlTable, table')] TableStore.crawlTable =
    some table' := rfl
  exact ⟨rfl, rfl, (run_eq_of_agree htable htable' rfl rfl (Or.inr ⟨0, rfl⟩) hrows).2.2⟩

end MetricsQuery

end CrawlAudit
