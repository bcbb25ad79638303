import CrawlAudit.Proofs.FilterReading
import CrawlAudit.Proofs.PlainCells
import CrawlAudit.Proofs.QueryRuns
import CrawlAudit.Proofs.SortedMap

/-!
# Looking into a group

The filter that asks for the properties of one group, beside what the query asks for already,
selects the rows of this group in their order, so that the ungrouped query shows what the group
shows.
-/

namespace CrawlAudit

namespace Filter

/-- The filter for the rows of a group among those that a filter selects. -/
def drillDown (filter : Option Filter) (groupBy : List String) (properties : Json.Members) :
    Filter :=
  conjunction (filter.toList ++
    groupBy.map fun f => equality f ((Json.member? f properties).getD .null))

theorem read_drillDown {patterns : PatternLanguage} {filter : Option Filter}
    (h : ∀ f ∈ filter, read f.document patterns = .ok f) (groupBy : List String)
    (properties : Json.Members) :
    read (drillDown filter groupBy properties).document patterns =
      .ok (drillDown filter groupBy properties) := by
  refine read_conjunction fun p hp => ?_
  rcases List.mem_append.mp hp with hp | hp
  · exact h p (Option.mem_toList.mp hp)
  · obtain ⟨f, -, rfl⟩ := List.mem_map.mp hp
    exact read_equality _ _

end Filter

namespace Table

variable (table : Table)

theorem select_conjunction (filter : Option Filter) (parts : List Filter) :
    table.select (some (Filter.conjunction (filter.toList ++ parts))) =
      (table.select filter).filter fun row =>
        parts.all fun p => p.root.accepts (table.cell row) := by
  simp only [select, Filter.accepts_conjunction]
  cases filter with
  | none => rfl
  | some f =>
      rw [List.filter_filter]
      refine List.filter_congr fun row _ => ?_
      rw [Option.toList_some, List.singleton_append, List.all_cons, Bool.and_comm]

variable {table} {groupBy : List String} {rows c : List Row}

/-- The rows of a class are those whose plain key cells equal what the class shows of them. -/
theorem filter_eq_class (hc : c ∈ Order.classes (table.alike groupBy) rows)
    (hplain : ∀ row ∈ rows, ∀ f ∈ groupBy, (table.cell row f).isPlain = true) :
    rows.filter (fun row => groupBy.all fun f => (table.cell row f).looselySame
      (Cell.ofJson (FieldCatalog.showDimension (table.classValue groupBy c f)))) = c := by
  obtain ⟨first, hmem, -, hclass, hcells⟩ := table.exists_row_of_mem_classes groupBy hc
  refine (List.filter_congr fun row hrow => ?_).trans hclass.symm
  rw [alike, Bool.eq_iff_iff, List.all_eq_true, List.all_eq_true]
  refine forall₂_congr fun f hf => ?_
  rw [hcells f hf, Cell.ofJson_showDimension (hplain first hmem f hf), beq_iff_eq]
  exact Cell.looselySame_iff (hplain first hmem f hf) (hplain row hrow f hf)

end Table

theorem QuerySettings.validate_drillDown {settings : QuerySettings} {catalog : FieldCatalog}
    {table : Table} {check : FieldCheck} {groupBy : List String}
    (h : settings.validate catalog table check = .ok ())
    (hgroupBy : settings.groupBy = some groupBy) (properties : Json.Members) :
    { settings with filter := some (Filter.drillDown settings.filter groupBy properties) }.validate
      catalog table check = .ok () := by
  refine FieldCatalog.validate_of_subset h fun f hf => ?_
  rcases List.mem_append.mp hf with hf | hf
  · exact List.mem_append_left _ hf
  · change f ∈ (Filter.conjunction _).root.fields at hf
    rw [Filter.fields_conjunction, List.flatMap_append] at hf
    rcases List.mem_append.mp hf with hf | hf
    · refine List.mem_append_right _ ?_
      cases hfilter : settings.filter with
      | none => simp [hfilter] at hf
      | some filter => simpa [hfilter, filterFields] using hf
    · obtain ⟨p, hp, hfp⟩ := List.mem_flatMap.mp hf
      obtain ⟨g, hg, rfl⟩ := List.mem_map.mp hp
      obtain rfl : f = g := List.mem_singleton.mp hfp
      refine List.mem_append_left _ ?_
      simp [referencedFields, hgroupBy, hg]

namespace MetricsQuery

variable (query : MetricsQuery) (store : TableStore) (settings : QuerySettings) {table : Table}
variable {groupBy : List String}

theorem member?_properties {field : String} (h : field ∈ groupBy) (c : List Row) :
    Json.member? field (query.showClass settings table groupBy c).properties =
      some (FieldCatalog.showDimension (table.classValue groupBy c field)) := by
  change (Sorted.ofList Order.texts _).lookup field = _
  rw [Sorted.lookup_ofList_map, if_pos h]

theorem select_drillDown {c : List Row}
    (hc : c ∈ Order.classes (table.alike groupBy) (table.select settings.filter))
    (hplain : ∀ row ∈ table.select settings.filter, ∀ f ∈ groupBy,
      (table.cell row f).isPlain = true) :
    table.select (some (Filter.drillDown settings.filter groupBy
      (query.showClass settings table groupBy c).properties)) = c := by
  have hvalues : (groupBy.map fun f => Filter.equality f ((Json.member? f
      (query.showClass settings table groupBy c).properties).getD .null)) =
      groupBy.map fun f => Filter.equality f
        (FieldCatalog.showDimension (table.classValue groupBy c f)) :=
    List.map_congr_left fun f hf => by rw [member?_properties query settings hf, Option.getD_some]
  rw [Filter.drillDown, hvalues, Table.select_conjunction]
  simp only [List.all_map, Function.comp_def, Filter.accepts_equality]
  exact Table.filter_eq_class hc hplain

/-- What a group shows of the counters is what the ungrouped query shows of the rows with the
properties of the group. The filter for them can be sent if the filter of the query can, whatever
the patterns are. -/
theorem run_drillDown (htable : store.table? TableStore.crawlTable = some table)
    (hvalid : settings.validate query.catalog table query.check = .ok ())
    (hgroupBy : settings.groupBy = some groupBy) (hne : groupBy ≠ [])
    (hplain : ∀ row ∈ table.select settings.filter, ∀ f ∈ groupBy,
      (table.cell row f).isPlain = true)
    (hfields : ∀ f ∈ settings.shownFields query.catalog table [], f ∉ groupBy) :
    ∃ results, query.run store settings = .ok (.grouped results) ∧
      ∀ r ∈ results,
        let drill := Filter.drillDown settings.filter groupBy r.properties
        query.run store { settings with filter := some drill, groupBy := none } =
            .ok (.aggregate r.counters) ∧
          ∀ patterns, (∀ f ∈ settings.filter, Filter.read f.document patterns = .ok f) →
            Filter.read drill.document patterns = .ok drill := by
  refine ⟨_, query.run_eq_grouped htable hvalid hgroupBy hne, fun r hr => ?_⟩
  obtain ⟨c, hc, rfl⟩ := List.mem_map.mp hr
  intro drill
  refine ⟨?_, fun patterns hfilter => Filter.read_drillDown hfilter _ _⟩
  have hselect : table.select (some drill) = c :=
    query.select_drillDown settings (table.mem_rankedClasses.mp hc).1 hplain
  have hdrill := query.run_ungrouped htable (QuerySettings.validate_drillDown hvalid hgroupBy
    (query.showClass settings table groupBy c).properties)
  -- no counter that is shown is a key, so each is the sum of its column over the class
  refine hdrill.trans ?_
  congr 2
  refine FieldCatalog.showCounters_congr fun f hf => ?_
  rw [table.classValue_of_notMem (hfields f hf)]
  change some (Cell.sum (table.columnCells (table.select (some drill)) f)) = _
  rw [hselect]

/-- A row that the filter does not select, groups of a null, a number and a text, a missing column,
and lists and doubles in the counters. -/
theorem run_drillDown_of_missing_key :
    let table : Table := ⟨["host", "pages_nb", "error_links.4xx.urls", "follow"],
      [[.null, .float .one], [.text "b", .int 1, .list [.text "/x"]], [.int 7],
        [.text "b", .text "3", .text "/y"], [.text "b", .int 2, .null, .bool true]]⟩
    let groupBy := ["host", "depth"]
    let settings : QuerySettings := { QuerySettings.default with
      filter := some (Filter.equality "follow" .null), groupBy := some groupBy }
    let query : MetricsQuery := ⟨.crawl, .strict, keepAll⟩
    let store : TableStore := [(TableStore.crawlTable, table)]
    ∃ results, query.run store settings = .ok (.grouped results) ∧ results ≠ [] ∧
      ∀ r ∈ results,
        let drill := Filter.drillDown settings.filter groupBy r.properties
        query.run store { settings with filter := some drill, groupBy := none } =
            .ok (.aggregate r.counters) ∧
          ∀ patterns, Filter.read drill.document patterns = .ok drill := by
  intro table groupBy settings query store
  have hrows : ∀ row ∈ table.rows, ∀ f ∈ groupBy, (table.cell row f).isPlain = true := by
    decide +kernel
  have hplain : ∀ row ∈ table.select settings.filter, ∀ f ∈ groupBy,
      (table.cell row f).isPlain = true :=
    fun row hrow => hrows row ((table.select_sublist settings.filter).subset hrow)
  have hfields : ∀ f ∈ settings.shownFields query.catalog table [], f ∉ groupBy := by
    decide +kernel
  have hselected : [.null, .float .one] ∈ table.select settings.filter := by
    refine List.mem_filter.mpr ⟨List.mem_cons_self .., ?_⟩
    rw [Filter.accepts_equality, Cell.ofJson]
    exact (Cell.looselySame_iff rfl rfl).mpr rfl
  obtain ⟨results, hrun, hresults⟩ :=
    run_drillDown query store settings rfl rfl rfl (by decide) hplain hfields
  refine ⟨results, hrun, ?_, fun r hr => ?_⟩
  · rw [query.run_eq_grouped rfl rfl rfl (by decide)] at hrun
    obtain rfl := QueryResult.grouped.inj (Except.ok.inj hrun)
    have hclass := (table.isPartition_alike groupBy _).mem_iff.mpr ⟨_, hselected, rfl⟩
    exact List.ne_nil_of_mem (List.mem_map_of_mem (table.mem_rankedClasses.mpr ⟨hclass, rfl⟩))
  · obtain ⟨hdrill, hread⟩ := hresults r hr
    refine ⟨hdrill, fun patterns => hread patterns fun f hf => ?_⟩
    obtain rfl := Option.some.inj hf
    exact Filter.read_equality _ _

end MetricsQuery

end CrawlAudit
