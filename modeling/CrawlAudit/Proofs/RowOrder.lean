import CrawlAudit.Proofs.IntegerSums
import CrawlAudit.Proofs.PlainCells
import CrawlAudit.Proofs.QueryRuns

/-!
# Queries on rows in any order

The values of a class of rows decide whether it is kept and where it is shown. Where the cells of
the grouping are exact and nothing saturates in the other columns, these values do not depend on
the order of the rows, and a query has the same result on the rows in any order, ties included.
-/

namespace CrawlAudit

open Std

theorem Order.IsPartition.alike_of_mem {α : Type} {alike : α → α → Bool} {xs : List α}
    {parts : List (List α)} (h : IsPartition alike xs parts) {c : List α} (hc : c ∈ parts)
    {a b : α} (ha : a ∈ c) (hb : b ∈ c) : alike a b = true := by
  rw [h.eq_filter c hc a ha] at hb
  exact List.of_mem_filter hb

namespace Table

/-- The cells of a grouping are exact in some rows, and the other columns hold neither lists nor
doubles there and sum to 64 bits. -/
structure IsOrderFree (table : Table) (groupBy : List String) (rows : List Row) : Prop where
  isExact : ∀ row ∈ rows, ∀ f ∈ groupBy, (table.cell row f).isExact = true
  isList_eq_false : ∀ row ∈ rows, ∀ f ∈ table.columns, f ∉ groupBy →
    (table.cell row f).isList = false
  isIntegral : ∀ f ∈ table.columns, f ∉ groupBy → Cell.IsIntegral (table.columnCells rows f)

instance (table : Table) (groupBy : List String) (rows : List Row) :
    Decidable (table.IsOrderFree groupBy rows) :=
  decidable_of_iff ((∀ row ∈ rows, ∀ f ∈ groupBy, (table.cell row f).isExact = true) ∧
    (∀ row ∈ rows, ∀ f ∈ table.columns, f ∉ groupBy → (table.cell row f).isList = false) ∧
    ∀ f ∈ table.columns, f ∉ groupBy → Cell.IsIntegral (table.columnCells rows f))
    ⟨fun h => ⟨h.1, h.2.1, h.2.2⟩, fun h => ⟨h.1, h.2, h.3⟩⟩

/-- The order of classes as an order of their values. -/
def valueOrder (groupBy : List String) (entries : List (String × Direction)) :
    (String → Cell) → (String → Cell) → Ordering :=
  compareLex
    (Order.lexicographic (fun e v w => e.2.apply ((v e.1).totalCompare (w e.1))) entries)
    (Order.lexicographic (fun f v w => (v f).totalCompare (w f)) groupBy)

instance (groupBy : List String) (entries : List (String × Direction)) :
    TransCmp (valueOrder groupBy entries) := by
  have hfield (f : String) :
      TransCmp fun v w : String → Cell => (v f).totalCompare (w f) :=
    Order.transCmp_on Cell.totalCompare fun v : String → Cell => v f
  have hentry (e : String × Direction) :
      TransCmp fun v w : String → Cell => e.2.apply ((v e.1).totalCompare (w e.1)) :=
    have := hfield e.1
    e.2.transCmp_apply _
  have hentries := Order.transCmp_lexicographic
    (fun (e : String × Direction) (v w : String → Cell) =>
      e.2.apply ((v e.1).totalCompare (w e.1))) entries
  have hfields := Order.transCmp_lexicographic
    (fun (f : String) (v w : String → Cell) => (v f).totalCompare (w f)) groupBy
  unfold valueOrder
  infer_instance

variable {table : Table} {groupBy : List String} {entries : List (String × Direction)}
variable {as bs c d : List Row}

theorem classOrder_eq_valueOrder (c d : List Row) :
    table.classOrder groupBy entries c d =
      valueOrder groupBy entries (table.classValue groupBy c) (table.classValue groupBy d) := by
  rw [classOrder, valueOrder, compareLex, compareLex]
  congr 1

theorem IsOrderFree.of_perm (h : table.IsOrderFree groupBy bs) (hperm : as.Perm bs) :
    table.IsOrderFree groupBy as where
  isExact row hrow := h.isExact row (hperm.mem_iff.mp hrow)
  isList_eq_false row hrow := h.isList_eq_false row (hperm.mem_iff.mp hrow)
  isIntegral f hf hkey := (h.isIntegral f hf hkey).of_perm (hperm.map _)

theorem IsOrderFree.of_sublist (h : table.IsOrderFree groupBy bs) (hsub : as.Sublist bs) :
    table.IsOrderFree groupBy as where
  isExact row hrow := h.isExact row (hsub.subset hrow)
  isList_eq_false row hrow := h.isList_eq_false row (hsub.subset hrow)
  isIntegral f hf hkey := (h.isIntegral f hf hkey).of_sublist (hsub.map _)

theorem columnCells_of_notMem {field : String} (h : field ∉ table.columns) (rows : List Row) :
    table.columnCells rows field = List.replicate rows.length .null := by
  have hnone : table.columnIndex? field = none := by
    rw [columnIndex?, List.findIdx?_eq_none_iff]
    exact fun column hcolumn => beq_false_of_ne (ne_of_mem_of_not_mem hcolumn h)
  simp only [columnCells, cell, hnone, cellAt, List.map_const']

theorem sum_columnCells_eq_of_perm (h : table.IsOrderFree groupBy bs) (hperm : as.Perm bs)
    {field : String} (hkey : field ∉ groupBy) :
    Cell.sum (table.columnCells as field) = Cell.sum (table.columnCells bs field) := by
  by_cases hfield : field ∈ table.columns
  · refine Cell.sum_eq_of_perm (hperm.map _) (h.isIntegral field hfield hkey) fun cell hcell => ?_
    obtain ⟨row, hrow, rfl⟩ := List.mem_map.mp hcell
    exact h.isList_eq_false row hrow field hfield hkey
  · rw [columnCells_of_notMem hfield, columnCells_of_notMem hfield, hperm.length_eq]

theorem classValue_eq_of_perm (h : table.IsOrderFree groupBy d) (hperm : c.Perm d)
    (halike : ∀ a ∈ d, ∀ b ∈ d, table.alike groupBy a b = true) :
    table.classValue groupBy c = table.classValue groupBy d := by
  funext field
  by_cases hkey : field ∈ groupBy
  · rcases d with _ | ⟨b, d⟩
    · rw [hperm.eq_nil]
    · obtain ⟨a, c, rfl⟩ := List.exists_cons_of_ne_nil fun hc : c = [] =>
        List.cons_ne_nil b d (hc ▸ hperm).nil_eq.symm
      have ha : a ∈ b :: d := hperm.mem_iff.mp (List.mem_cons_self ..)
      have hb : b ∈ b :: d := List.mem_cons_self ..
      rw [classValue_cons_of_mem table groupBy hkey, classValue_cons_of_mem table groupBy hkey]
      refine Cell.eq_of_totalCompare (h.isExact a ha field hkey) (h.isExact b hb field hkey) ?_
      exact eq_of_beq (List.all_eq_true.mp (halike a ha b hb) field hkey)
  · rw [table.classValue_of_notMem hkey, table.classValue_of_notMem hkey]
    exact sum_columnCells_eq_of_perm h hperm hkey

theorem exists_rankedClasses_classValue_eq {keeps : Group → Bool}
    (hkeeps : ∀ g g' : Group, (∀ f, g.get f = g'.get f) → keeps g = keeps g')
    (h : table.IsOrderFree groupBy bs) (hperm : as.Perm bs)
    (hc : c ∈ table.rankedClasses groupBy entries keeps as) :
    ∃ d ∈ table.rankedClasses groupBy entries keeps bs,
      table.classValue groupBy d = table.classValue groupBy c := by
  -- the class in the other order is the one of the same row
  obtain ⟨hclass, hkept⟩ := table.mem_rankedClasses.mp hc
  have hparts := table.isPartition_alike groupBy as
  obtain ⟨a, ha, rfl⟩ := hparts.mem_iff.mp hclass
  have hvalue : table.classValue groupBy (bs.filter (table.alike groupBy a)) =
      table.classValue groupBy (as.filter (table.alike groupBy a)) :=
    classValue_eq_of_perm ((h.of_perm hperm).of_sublist List.filter_sublist)
      (hperm.symm.filter _) fun x hx y hy => hparts.alike_of_mem hclass hx hy
  refine ⟨_, table.mem_rankedClasses.mpr
    ⟨(table.isPartition_alike groupBy bs).mem_iff.mpr ⟨a, hperm.mem_iff.mp ha, rfl⟩, ?_⟩, hvalue⟩
  rw [← hkept]
  refine hkeeps _ _ fun f => ?_
  rw [get_classGroup, get_classGroup, hvalue]

/-- The classes that are kept have the same values in the same order. -/
theorem map_classValue_rankedClasses (entries : List (String × Direction)) {keeps : Group → Bool}
    (hkeeps : ∀ g g' : Group, (∀ f, g.get f = g'.get f) → keeps g = keeps g')
    (h : table.IsOrderFree groupBy bs) (hperm : as.Perm bs) :
    (table.rankedClasses groupBy entries keeps as).map (table.classValue groupBy) =
      (table.rankedClasses groupBy entries keeps bs).map (table.classValue groupBy) := by
  -- both lists are strictly ascending, so that their elements decide
  have hlt (rows : List Row) :
      ((table.rankedClasses groupBy entries keeps rows).map (table.classValue groupBy)).Pairwise
        fun v w => valueOrder groupBy entries v w = .lt := by
    rw [List.pairwise_map]
    refine (table.pairwise_rankedClasses groupBy entries keeps rows).imp fun {c d} hcd => ?_
    rwa [← classOrder_eq_valueOrder]
  refine Order.eq_of_mem_iff (valueOrder groupBy entries) (hlt as) (hlt bs) fun v => ?_
  rw [List.mem_map, List.mem_map]
  constructor
  · rintro ⟨c, hc, rfl⟩
    exact exists_rankedClasses_classValue_eq hkeeps h hperm hc
  · rintro ⟨d, hd, rfl⟩
    exact exists_rankedClasses_classValue_eq hkeeps (h.of_perm hperm) hperm.symm hd

theorem perm_select {rows : List Row} (h : rows.Perm table.rows) (filter : Option Filter) :
    ({ table with rows := rows }.select filter).Perm (table.select filter) := by
  cases filter with
  | none => exact h
  | some f => exact h.filter _

end Table

namespace MetricsQuery

variable {query : MetricsQuery} {store store' : TableStore} {settings : QuerySettings}
variable {table : Table} {rows : List Row}

theorem keeps_congr (h : query.keeps = keepAll ∨ ∃ pages, query.keeps = keepAbove pages)
    (g g' : Group) (hget : ∀ f, g.get f = g'.get f) : query.keeps g = query.keeps g' := by
  rcases h with h | ⟨pages, h⟩
  · rw [h, keepAll, keepAll]
  · rw [h, keepAbove, keepAbove, hget]

theorem map_showClass_eq {groupBy : List String} {cs ds : List (List Row)}
    (h : cs.map (table.classValue groupBy) = ds.map (table.classValue groupBy)) :
    cs.map (query.showClass settings table groupBy) =
      ds.map (query.showClass settings table groupBy) := by
  let shown (v : String → Cell) : GroupResult :=
    ⟨Sorted.ofList Order.texts (groupBy.map fun f => (f, FieldCatalog.showDimension (v f))),
      query.catalog.showCounters (settings.shownFields query.catalog table []) fun f =>
        some (v f)⟩
  have hshown := congrArg (List.map shown) h
  rwa [List.map_map, List.map_map] at hshown

theorem result_eq_of_perm
    (hkeeps : query.keeps = keepAll ∨ ∃ pages, query.keeps = keepAbove pages)
    (hperm : rows.Perm table.rows)
    (h : table.IsOrderFree (settings.groupBy.getD []) (table.select settings.filter)) :
    query.result settings { table with rows := rows } = query.result settings table := by
  have hselect := Table.perm_select hperm settings.filter
  by_cases hne : settings.groupBy.getD [] = []
  · rw [query.result_eq_aggregate hne, query.result_eq_aggregate hne]
    refine congrArg QueryResult.aggregate (FieldCatalog.showCounters_congr fun f _ => ?_)
    refine congrArg some (Table.sum_columnCells_eq_of_perm h hselect ?_)
    rw [hne]
    exact List.not_mem_nil
  · obtain ⟨groupBy, hgroupBy⟩ : ∃ groupBy, settings.groupBy = some groupBy := by
      cases hs : settings.groupBy with
      | none => simp [hs] at hne
      | some groupBy => exact ⟨groupBy, rfl⟩
    rw [hgroupBy, Option.getD_some] at h hne
    have hvalues := Table.map_classValue_rankedClasses (settings.sort.getD [])
      (keeps_congr hkeeps) h hselect
    rw [query.result_eq_grouped hgroupBy hne, query.result_eq_grouped hgroupBy hne]
    exact congrArg QueryResult.grouped (map_showClass_eq hvalues)

/-- A query has the same result, or the same fault, on the rows of a table in any order. -/
theorem run_eq_of_perm (htable : store.table? TableStore.crawlTable = some table)
    (htable' : store'.table? TableStore.crawlTable = some { table with rows := rows })
    (hperm : rows.Perm table.rows)
    (hkeeps : query.keeps = keepAll ∨ ∃ pages, query.keeps = keepAbove pages)
    (h : table.IsOrderFree (settings.groupBy.getD []) (table.select settings.filter)) :
    query.run store' settings = query.run store settings := by
  rw [query.run_eq_bind htable, query.run_eq_bind htable', result_eq_of_perm hkeeps hperm h]
  rfl

/-- Groups that tie in the sorting, on reversed rows with a short one and a missing column. -/
theorem run_reverse_of_ties :
    let table : Table := ⟨["host", "pages_nb", "follow"],
      [[.text "b", .int 4, .bool true], [.int 7, .text "3"], [.text "a", .int (-2), .null],
        [.null, .bool true, .text "x"], [.text "a", .int 6, .bool false]]⟩
    let settings : QuerySettings := { QuerySettings.default with
      groupBy := some ["host", "depth"], sort := some [("pages_nb", .descending)] }
    let query : MetricsQuery := ⟨.crawl, .strict, keepAbove 0⟩
    table.IsOrderFree ["host", "depth"] (table.select none) ∧
      query.run [(TableStore.crawlTable, { table with rows := table.rows.reverse })] settings =
        query.run [(TableStore.crawlTable, table)] settings := by
  intro table settings query
  have h : table.IsOrderFree ["host", "depth"] (table.select none) := by decide +kernel
  exact ⟨h, run_eq_of_perm rfl rfl (List.reverse_perm _) (Or.inr ⟨0, rfl⟩) h⟩

end MetricsQuery

end CrawlAudit
