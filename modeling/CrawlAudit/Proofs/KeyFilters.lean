import CrawlAudit.Proofs.DrillDown
import CrawlAudit.Proofs.FilterTrees
import Mathlib.Data.List.Basic

/-!
# Filters on the columns of a grouping

A filter that looks at no other columns than those of a grouping accepts all rows of a class or
none of them. Selecting rows by it before they are grouped therefore leaves the groups that it
accepts, with the same values and in the same order.
-/

namespace CrawlAudit

namespace Order

variable {α : Type} {alike : α → α → Bool} {p : α → Bool} {xs : List α}

theorem classes_filter (hp : ∀ a ∈ xs, ∀ b ∈ xs, alike a b = true → p a = p b) :
    classes alike (xs.filter p) = (classes alike xs).filter fun c => c.all p := by
  fun_induction classes alike xs with
  | case1 => simp [classes]
  | case2 a as ih =>
      simp only [List.unattach_filter, List.unattach_attach] at ih
      have hrest := ih fun b hb c hc => hp b (List.mem_cons_of_mem _ (List.mem_filter.mp hb).1) c
        (List.mem_cons_of_mem _ (List.mem_filter.mp hc).1)
      have halike : ∀ b ∈ as, alike a b = true → p b = p a := fun b hb hab =>
        (hp a (List.mem_cons_self ..) b (List.mem_cons_of_mem _ hb) hab).symm
      cases ha : p a with
      | true =>
          have hkept : (as.filter (alike a)).filter p = as.filter (alike a) := by
            refine List.filter_eq_self.mpr fun b hb => ?_
            rw [halike b (List.mem_filter.mp hb).1 (List.mem_filter.mp hb).2, ha]
          have hall : (a :: as.filter (alike a)).all p = true := by
            rw [List.all_cons, ha, ← hkept, List.all_filter]
            simp
          rw [List.filter_cons_of_pos ha, classes,
            List.filter_cons_of_pos (p := fun c : List α => c.all p) hall, List.filter_comm,
            hkept, List.filter_comm, hrest]
      | false =>
          have hfilter : as.filter p = (as.filter fun b => !alike a b).filter p := by
            rw [List.filter_filter]
            refine List.filter_congr fun b hb => ?_
            cases hab : alike a b with
            | true => rw [halike b hb hab, ha, Bool.false_and]
            | false => rw [Bool.not_false, Bool.and_true]
          rw [List.filter_cons_of_neg (by simp [ha]), hfilter, hrest, List.filter_cons_of_neg]
          simp [ha]

end Order

namespace Table

variable {table : Table} {groupBy : List String} {rows : List Row} {node : FilterNode}

theorem accepts_eq_of_alike (hfields : ∀ f ∈ node.fields, f ∈ groupBy) {a b : Row}
    (ha : ∀ f ∈ groupBy, (table.cell a f).isExact = true)
    (hb : ∀ f ∈ groupBy, (table.cell b f).isExact = true) (h : table.alike groupBy a b = true) :
    node.accepts (table.cell a) = node.accepts (table.cell b) := by
  refine FilterNode.accepts_congr fun f hf => ?_
  have hkey := hfields f hf
  exact Cell.eq_of_totalCompare (ha f hkey) (hb f hkey)
    (eq_of_beq (List.all_eq_true.mp h f hkey))

theorem all_accepts_eq (hfields : ∀ f ∈ node.fields, f ∈ groupBy)
    (hexact : ∀ row ∈ rows, ∀ f ∈ groupBy, (table.cell row f).isExact = true) {c : List Row}
    (hc : c ∈ Order.classes (table.alike groupBy) rows) :
    (c.all fun row => node.accepts (table.cell row)) =
      node.accepts (table.classValue groupBy c) := by
  obtain ⟨a, hmem, ha, hclass, hcells⟩ := table.exists_row_of_mem_classes groupBy hc
  have hvalue : node.accepts (table.classValue groupBy c) = node.accepts (table.cell a) :=
    FilterNode.accepts_congr fun f hf => hcells f (hfields f hf)
  have hrows : ∀ b ∈ c, node.accepts (table.cell b) = node.accepts (table.cell a) := by
    intro b hb
    rw [hclass] at hb
    obtain ⟨hb, halike⟩ := List.mem_filter.mp hb
    exact (accepts_eq_of_alike hfields (hexact a hmem) (hexact b hb) halike).symm
  rw [hvalue, Bool.eq_iff_iff, List.all_eq_true]
  constructor
  · intro h
    exact h a ha
  · intro h b hb
    rw [hrows b hb, h]

/-- The classes of the rows that the filter accepts are the classes with keys that it accepts, in
the same order. -/
theorem rankedClasses_filter (hfields : ∀ f ∈ node.fields, f ∈ groupBy)
    (hexact : ∀ row ∈ rows, ∀ f ∈ groupBy, (table.cell row f).isExact = true)
    (entries : List (String × Direction)) (keeps : Group → Bool) :
    table.rankedClasses groupBy entries keeps
        (rows.filter fun row => node.accepts (table.cell row)) =
      (table.rankedClasses groupBy entries keeps rows).filter fun c =>
        node.accepts (table.classValue groupBy c) := by
  have hconstant : ∀ a ∈ rows, ∀ b ∈ rows, table.alike groupBy a b = true →
      node.accepts (table.cell a) = node.accepts (table.cell b) := fun a ha b hb =>
    accepts_eq_of_alike hfields (hexact a ha) (hexact b hb)
  have hkept : table.keptClasses groupBy keeps
      (rows.filter fun row => node.accepts (table.cell row)) =
        (table.keptClasses groupBy keeps rows).filter fun c =>
          node.accepts (table.classValue groupBy c) := by
    rw [keptClasses, Order.classes_filter hconstant, List.filter_comm, keptClasses]
    exact List.filter_congr fun c hc => all_accepts_eq hfields hexact (List.mem_filter.mp hc).1
  refine Order.sort_eq_of_pairwise ?_ ?_
  · exact (table.pairwise_rankedClasses groupBy entries keeps rows).filter _
  · rw [hkept]
    exact (Order.perm_sort _ _).filter _

end Table

theorem FieldCatalog.validate_append {catalog : FieldCatalog} {fields fields' : List String}
    (hsub : fields' ⊆ fields) (columns : List String) (check : FieldCheck) :
    catalog.validate (fields ++ fields') columns check =
      catalog.validate fields columns check := by
  have hfind : ((fields ++ fields').find? fun f => !(catalog.isKnown f || columns.contains f)) =
      fields.find? fun f => !(catalog.isKnown f || columns.contains f) := by
    rw [List.find?_append]
    cases hfound : fields.find? fun f => !(catalog.isKnown f || columns.contains f) with
    | some f => rfl
    | none =>
        rw [List.find?_eq_none] at hfound
        exact List.find?_eq_none.mpr fun f hf => hfound f (hsub hf)
  simp only [validate, hfind]

theorem QuerySettings.validate_conjunction {settings : QuerySettings} {groupBy : List String}
    (hgroupBy : settings.groupBy = some groupBy) {filter : Filter}
    (hfields : ∀ f ∈ filter.root.fields, f ∈ groupBy) (catalog : FieldCatalog) (table : Table)
    (check : FieldCheck) :
    { settings with
      filter := some (Filter.conjunction (settings.filter.toList ++ [filter])) }.validate
        catalog table check = settings.validate catalog table check := by
  have hfilterFields : (Filter.conjunction (settings.filter.toList ++ [filter])).root.fields =
      settings.filterFields ++ filter.root.fields := by
    rw [Filter.fields_conjunction, List.flatMap_append, filterFields]
    cases settings.filter <;> simp
  have hkeys : filter.root.fields ⊆ settings.referencedFields ++ settings.filterFields := by
    intro f hf
    simp [referencedFields, hgroupBy, hfields f hf]
  calc
    _ = catalog.validate (settings.referencedFields ++
          (Filter.conjunction (settings.filter.toList ++ [filter])).root.fields)
          table.columns check := rfl
    _ = catalog.validate ((settings.referencedFields ++ settings.filterFields) ++
          filter.root.fields) table.columns check := by rw [hfilterFields, List.append_assoc]
    _ = settings.validate catalog table check := FieldCatalog.validate_append hkeys _ _

namespace MetricsQuery

variable (query : MetricsQuery) (store : TableStore) (settings : QuerySettings) {table : Table}
variable {groupBy : List String} {filter : Filter}

theorem orderedGroups_conjunction (hfields : ∀ f ∈ filter.root.fields, f ∈ groupBy)
    (hexact : ∀ row ∈ table.select settings.filter, ∀ f ∈ groupBy,
      (table.cell row f).isExact = true) :
    query.orderedGroups { settings with
        filter := some (Filter.conjunction (settings.filter.toList ++ [filter])) } table groupBy =
      (query.orderedGroups settings table groupBy).filter fun g => filter.root.accepts g.get := by
  rw [orderedGroups_eq, orderedGroups_eq, Table.select_conjunction, List.filter_map]
  simp only [List.all_cons, List.all_nil, Bool.and_true]
  rw [Table.rankedClasses_filter hfields hexact]
  congr 1
  refine List.filter_congr fun c _ => ?_
  exact (FilterNode.accepts_congr fun f _ => table.get_classGroup groupBy c f).symm

theorem run_eq_map (htable : store.table? TableStore.crawlTable = some table)
    (hgroupBy : settings.groupBy = some groupBy) (hne : groupBy ≠ []) :
    query.run store settings = (settings.validate query.catalog table query.check).map fun _ =>
      .grouped ((query.orderedGroups settings table groupBy).map
        (query.showGroup groupBy (settings.shownFields query.catalog table []))) := by
  rw [query.run_eq_bind htable, query.result_eq_map hgroupBy hne]
  cases settings.validate query.catalog table query.check <;> rfl

/-- Joining a filter on the columns of the grouping to a query, with exact cells there, leaves the
groups with keys that the filter accepts, or the fault that the query has without it. -/
theorem run_filterKeys (htable : store.table? TableStore.crawlTable = some table)
    (hgroupBy : settings.groupBy = some groupBy) (hne : groupBy ≠ [])
    (hfields : ∀ f ∈ filter.root.fields, f ∈ groupBy)
    (hexact : ∀ row ∈ table.select settings.filter, ∀ f ∈ groupBy,
      (table.cell row f).isExact = true) :
    let joined := Filter.conjunction (settings.filter.toList ++ [filter])
    let checked := settings.validate query.catalog table query.check
    let groups := query.orderedGroups settings table groupBy
    let shown := query.showGroup groupBy (settings.shownFields query.catalog table [])
    query.run store settings = checked.map (fun _ => .grouped (groups.map shown)) ∧
      query.run store { settings with filter := some joined } =
        checked.map fun _ =>
          .grouped ((groups.filter fun g => filter.root.accepts g.get).map shown) := by
  intro joined checked groups shown
  refine ⟨query.run_eq_map store settings htable hgroupBy hne, ?_⟩
  rw [query.run_eq_map store { settings with filter := some joined } htable hgroupBy hne,
    QuerySettings.validate_conjunction hgroupBy hfields,
    query.orderedGroups_conjunction settings hfields hexact]
  rfl

/-- A filter with a negated test in a disjunction, a null and a missing cell among the keys, and
groups that tie in the sorting. -/
theorem run_filterKeys_of_disjunction :
    let table : Table := ⟨["host", "depth", "pages_nb"],
      [[.text "a", .int 1, .int 4], [.text "b", .int 3, .int 1], [.null, .int 1, .int 2],
        [.text "b"], [.text "a", .int 9007199254740992, .int 4], [.text "b", .int 3, .int 5]]⟩
    let filter : Filter := ⟨.object [("or", .array [
        .object [("field", .text "host"), ("predicate", .text "starts"), ("value", .text "b")],
        .object [("field", .text "depth"), ("not", .bool true), ("predicate", .text "gte"),
          ("value", .int 2)]])],
      .any [.leaf ⟨"host", .starts, .text "b", false, none⟩,
        .leaf ⟨"depth", .gte, .int 2, true, none⟩]⟩
    let settings : QuerySettings := { QuerySettings.default with
      filter := some (Filter.equality "follow" .null), groupBy := some ["host", "depth"],
      sort := some [("pages_nb", .descending)] }
    let query : MetricsQuery := ⟨.crawl, .strict, keepAbove 3⟩
    let joined := Filter.conjunction [Filter.equality "follow" .null, filter]
    let store : TableStore := [(TableStore.crawlTable, table)]
    (∀ row ∈ table.rows, ∀ f ∈ ["host", "depth"], (table.cell row f).isExact = true) ∧
      ∃ results kept, query.run store settings = .ok (.grouped results) ∧
        query.run store { settings with filter := some joined } = .ok (.grouped kept) ∧
        kept.Sublist results := by
  intro table filter settings query joined store
  have hrows : ∀ row ∈ table.rows, ∀ f ∈ ["host", "depth"],
      (table.cell row f).isExact = true := by decide +kernel
  have hfields : ∀ f ∈ filter.root.fields, f ∈ ["host", "depth"] := by decide
  obtain ⟨hrun, hjoined⟩ := run_filterKeys query store settings rfl rfl (by decide) hfields
    fun row hrow => hrows row ((table.select_sublist settings.filter).subset hrow)
  exact ⟨hrows, _, _, hrun, hjoined, List.filter_sublist.map _⟩

end MetricsQuery

end CrawlAudit
