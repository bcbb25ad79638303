import CrawlAudit.Proofs.DrillDown
import Mathlib.Data.List.Basic

/-!
# Groups and the keys that are shown of them

Two groups of a query differ in the cell of some column of the grouping, but a document shows
doubles as integers and has no place for those that are not finite. Groups can be told apart by
their properties unless such a loss blurs the cells in which they differ.
-/

namespace CrawlAudit

namespace Cell

/-- The integer that a number other than a truth value is shown as among the properties. -/
def shownInteger? : Cell → Option Int64
  | .int n => some n
  | .float x => some (FieldCatalog.shownNumber (some (.float x)))
  | _ => none

/-- The cell with nulls for the doubles in it that are not finite. -/
def finitePart : Cell → Cell
  | .float x => if x.isFinite then .float x else .null
  | .list items => .list (items.map finitePart)
  | c => c

/-- Cells that the total order tells apart but that are shown alike: numbers with one integer part,
or lists that differ only in nulls and doubles that are not finite. -/
def AreBlurred (a b : Cell) : Prop :=
  a.totalCompare b ≠ .eq ∧
    (a.shownInteger?.isSome ∧ a.shownInteger? = b.shownInteger? ∨
      ∃ as bs, a = .list as ∧ b = .list bs ∧ as.map finitePart = bs.map finitePart)

theorem ofJson_toJson (c : Cell) : ofJson c.toJson = c.finitePart := by
  induction c using plain_list_induction with
  | list items ih =>
      rw [toJson, ofJson, finitePart, List.map_map]
      exact congrArg list (List.map_congr_left ih)
  | plain c hc =>
      cases c with
      | int n =>
          simp only [finitePart]
          exact ofJson_showDimension (c := .int n) rfl
      | float x =>
          rw [toJson, finitePart]
          split <;> rw [ofJson]
      | list items => exact absurd rfl (hc items)
      | _ => simp only [toJson, ofJson, finitePart]

theorem toJson_finitePart (c : Cell) : c.finitePart.toJson = c.toJson := by
  induction c using plain_list_induction with
  | list items ih =>
      rw [finitePart, toJson, toJson, List.map_map]
      exact congrArg Json.array (List.map_congr_left ih)
  | plain c hc =>
      cases c with
      | float x =>
          rw [finitePart, toJson]
          split_ifs with h
          · rw [toJson, if_pos h]
          · rw [toJson]
      | list items => exact absurd rfl (hc items)
      | _ => simp only [finitePart]

theorem toJson_eq_iff {a b : Cell} : a.toJson = b.toJson ↔ a.finitePart = b.finitePart := by
  constructor
  · intro h
    rw [← ofJson_toJson, h, ofJson_toJson]
  · intro h
    rw [← toJson_finitePart, h, toJson_finitePart]

theorem shownInteger?_eq_some_iff {c : Cell} {n : Int64} :
    c.shownInteger? = some n ↔ FieldCatalog.showDimension c = .int n.toInt := by
  cases c <;> simp [shownInteger?, FieldCatalog.showDimension, toJson, Int64.toInt_inj]

theorem eq_of_showDimension {a b : Cell} (hinteger : a.shownInteger? = none)
    (hlist : ∀ items, a ≠ .list items)
    (h : FieldCatalog.showDimension a = FieldCatalog.showDimension b) : a = b := by
  cases a with
  | int n => contradiction
  | float x => contradiction
  | list items => exact absurd rfl (hlist items)
  | _ => cases b <;> simp_all [FieldCatalog.showDimension, toJson]

theorem exists_list_of_showDimension {as : List Cell} {b : Cell}
    (h : FieldCatalog.showDimension (.list as) = FieldCatalog.showDimension b) :
    ∃ bs, b = .list bs ∧ as.map finitePart = bs.map finitePart := by
  cases b with
  | list bs =>
      have hparts := toJson_eq_iff.mp h
      rw [finitePart, finitePart] at hparts
      exact ⟨bs, rfl, Cell.list.inj hparts⟩
  | _ => simp [FieldCatalog.showDimension, toJson] at h

theorem areBlurred_iff {a b : Cell} : AreBlurred a b ↔
    a.totalCompare b ≠ .eq ∧ FieldCatalog.showDimension a = FieldCatalog.showDimension b := by
  refine and_congr_right fun hne => ?_
  constructor
  · rintro (⟨hsome, heq⟩ | ⟨as, bs, rfl, rfl, h⟩)
    · obtain ⟨n, hn⟩ := Option.isSome_iff_exists.mp hsome
      rw [shownInteger?_eq_some_iff.mp hn, shownInteger?_eq_some_iff.mp (heq ▸ hn)]
    · exact toJson_eq_iff.mpr (by rw [finitePart, finitePart, h])
  · intro h
    cases hinteger : a.shownInteger? with
    | some n =>
        have ha := shownInteger?_eq_some_iff.mp hinteger
        exact Or.inl ⟨rfl, (shownInteger?_eq_some_iff.mpr (h ▸ ha)).symm⟩
    | none =>
        by_cases hlist : ∀ items, a ≠ .list items
        · rw [eq_of_showDimension hinteger hlist h] at hne
          exact absurd Std.ReflCmp.compare_self hne
        · obtain ⟨as, rfl⟩ := not_forall_not.mp hlist
          obtain ⟨bs, rfl, hparts⟩ := exists_list_of_showDimension h
          exact Or.inr ⟨as, bs, rfl, rfl, hparts⟩

end Cell

namespace Table

variable {table : Table} {groupBy : List String} {rows c d : List Row}

theorem exists_totalCompare_ne (hc : c ∈ Order.classes (table.alike groupBy) rows)
    (hd : d ∈ Order.classes (table.alike groupBy) rows) (hne : c ≠ d) :
    ∃ f ∈ groupBy, (table.classValue groupBy c f).totalCompare (table.classValue groupBy d f) ≠
      .eq := by
  obtain ⟨a, -, -, hca, hcells⟩ := table.exists_row_of_mem_classes groupBy hc
  obtain ⟨b, hb, -, hdb, hcells'⟩ := table.exists_row_of_mem_classes groupBy hd
  by_contra hall
  push Not at hall
  have halike : table.alike groupBy a b = true := by
    refine List.all_eq_true.mpr fun f hf => beq_iff_eq.mpr ?_
    rw [← hcells f hf, ← hcells' f hf]
    exact hall f hf
  have hbc : b ∈ c := by
    rw [hca]
    exact List.mem_filter.mpr ⟨hb, halike⟩
  -- a class is what is alike to any of its rows
  apply hne
  rw [hdb]
  exact (table.isPartition_alike groupBy rows).eq_filter c hc b hbc

end Table

namespace MetricsQuery

variable (query : MetricsQuery) (store : TableStore) (settings : QuerySettings) {table : Table}
variable {groupBy : List String}

theorem showDimension_eq_of_properties {g h : Group} {fields : List String}
    (heq : (query.showGroup groupBy fields g).properties =
      (query.showGroup groupBy fields h).properties) {f : String} (hf : f ∈ groupBy) :
    FieldCatalog.showDimension (g.get f) = FieldCatalog.showDimension (h.get f) := by
  have hlookup := congrArg (List.lookup f) heq
  simp only [showGroup, Sorted.lookup_ofList_map, if_pos hf] at hlookup
  exact Option.some.inj hlookup

theorem pairwise_areBlurred (table : Table) (groupBy fields : List String) :
    (query.orderedGroups settings table groupBy).Pairwise fun g h =>
      (query.showGroup groupBy fields g).properties =
          (query.showGroup groupBy fields h).properties →
        ∃ f ∈ groupBy, Cell.AreBlurred (g.get f) (h.get f) := by
  rw [orderedGroups_eq, List.pairwise_map]
  refine (table.pairwise_rankedClasses groupBy _ _ _).imp_of_mem fun {c d} hc hd hlt heq => ?_
  have hne : c ≠ d := by
    rintro rfl
    rw [(Std.ReflCmp.compare_self : table.classOrder groupBy _ c c = .eq)] at hlt
    contradiction
  obtain ⟨f, hf, hcells⟩ := Table.exists_totalCompare_ne (table.mem_rankedClasses.mp hc).1
    (table.mem_rankedClasses.mp hd).1 hne
  refine ⟨f, hf, Cell.areBlurred_iff.mpr ⟨?_, showDimension_eq_of_properties query heq hf⟩⟩
  rwa [Table.get_classGroup, Table.get_classGroup]

theorem exists_row_of_mem_orderedGroups {g : Group}
    (hg : g ∈ query.orderedGroups settings table groupBy) :
    ∃ row ∈ table.select settings.filter, ∀ f ∈ groupBy, g.get f = table.cell row f := by
  rw [orderedGroups_eq] at hg
  obtain ⟨c, hc, rfl⟩ := List.mem_map.mp hg
  obtain ⟨row, hrow, -, -, hcells⟩ :=
    table.exists_row_of_mem_classes groupBy (table.mem_rankedClasses.mp hc).1
  refine ⟨row, hrow, fun f hf => ?_⟩
  rw [Table.get_classGroup, hcells f hf]

/-- Two groups that are shown have the same properties only if their cells in some column of the
grouping are blurred, so that all are told apart where no two selected rows have blurred cells. -/
theorem run_tellsApart (htable : store.table? TableStore.crawlTable = some table)
    (hvalid : settings.validate query.catalog table query.check = .ok ())
    (hgroupBy : settings.groupBy = some groupBy) (hne : groupBy ≠ []) :
    let rows := table.select settings.filter
    let groups := query.orderedGroups settings table groupBy
    let shown := query.showGroup groupBy (settings.shownFields query.catalog table [])
    query.run store settings = .ok (.grouped (groups.map shown)) ∧
      (groups.Pairwise fun g h => (shown g).properties = (shown h).properties →
        ∃ f ∈ groupBy, Cell.AreBlurred (g.get f) (h.get f)) ∧
      ((∀ f ∈ groupBy, ∀ row ∈ rows, ∀ row' ∈ rows,
          ¬Cell.AreBlurred (table.cell row f) (table.cell row' f)) →
        ((groups.map shown).map GroupResult.properties).Nodup) := by
  intro rows groups shown
  have hblurred := query.pairwise_areBlurred settings table groupBy
    (settings.shownFields query.catalog table [])
  refine ⟨?_, hblurred, fun hclear => ?_⟩
  · rw [query.run_eq_result htable hvalid, query.result_eq_map hgroupBy hne]
  · rw [List.map_map, List.Nodup, List.pairwise_map]
    refine hblurred.imp_of_mem fun {g h} hg hh hgh heq => ?_
    obtain ⟨f, hf, hcells⟩ := hgh heq
    obtain ⟨row, hrow, hrowCells⟩ := query.exists_row_of_mem_orderedGroups settings hg
    obtain ⟨row', hrow', hrowCells'⟩ := query.exists_row_of_mem_orderedGroups settings hh
    rw [hrowCells f hf, hrowCells' f hf] at hcells
    exact hclear f hf row hrow row' hrow' hcells

/-- Doubles with different integer parts beside an integer, a truth value, a text and a null. -/
theorem run_tellsApart_of_fractions :
    let table : Table := ⟨["depth", "pages_nb"],
      [[.float ⟨0x3FF8000000000000⟩, .int 1], [.float ⟨0x4004000000000000⟩, .int 2], [.int 3],
        [.bool true], [], [.text "3"], [.float ⟨0x4008000000000000⟩]]⟩
    let settings : QuerySettings := { QuerySettings.default with groupBy := some ["depth"] }
    let query : MetricsQuery := ⟨.crawl, .strict, keepAll⟩
    ∃ results, query.run [(TableStore.crawlTable, table)] settings = .ok (.grouped results) ∧
      (results.map GroupResult.properties).Nodup := by
  intro table settings query
  have hnumbers : ∀ row ∈ table.rows, ∀ row' ∈ table.rows,
      (table.cell row "depth").totalCompare (table.cell row' "depth") ≠ .eq →
        ¬((table.cell row "depth").shownInteger?.isSome ∧
          (table.cell row "depth").shownInteger? = (table.cell row' "depth").shownInteger?) := by
    decide +kernel
  have hlists : ∀ row ∈ table.rows, (table.cell row "depth").rank < 3 := by decide +kernel
  obtain ⟨hrun, -, hnodup⟩ := run_tellsApart query [(TableStore.crawlTable, table)] settings
    rfl rfl rfl (List.cons_ne_nil _ _)
  refine ⟨_, hrun, hnodup fun f hf row hrow row' hrow' => ?_⟩
  obtain rfl := List.mem_singleton.mp hf
  rintro ⟨hne, hnumber | ⟨as, bs, has, -⟩⟩
  · exact hnumbers row hrow row' hrow' hne hnumber
  · have hrank := hlists row hrow
    rw [has] at hrank
    exact absurd hrank (Nat.lt_irrefl 3)

/-- Two doubles with one integer part make two groups with the same properties. -/
theorem not_nodup_properties_of_fractions :
    let quarter : Binary64 := ⟨0x3FD0000000000000⟩
    let half : Binary64 := ⟨0x3FE0000000000000⟩
    let table : Table := ⟨["depth", "pages_nb"],
      [[.float quarter, .int 1], [.float half, .int 2]]⟩
    let settings : QuerySettings := { QuerySettings.default with groupBy := some ["depth"] }
    let query : MetricsQuery := ⟨.crawl, .strict, keepAll⟩
    ∃ results, query.run [(TableStore.crawlTable, table)] settings = .ok (.grouped results) ∧
      ¬(results.map GroupResult.properties).Nodup := by
  intro quarter half table settings query
  have hrun : query.run [(TableStore.crawlTable, table)] settings = _ :=
    query.run_eq_grouped rfl rfl rfl (by decide)
  refine ⟨_, hrun, ?_⟩
  have halike : table.alike ["depth"] [.float quarter, .int 1] [.float half, .int 2] = false := by
    decide +kernel
  have hclasses : Order.classes (table.alike ["depth"]) (table.select settings.filter) =
      [[[.float quarter, .int 1]], [[.float half, .int 2]]] := by
    change Order.classes _ [_, _] = _
    simp [Order.classes, halike]
  have hshown : ∀ x n, FieldCatalog.showDimension (.float x) = .int 0 →
      (query.showClass settings table ["depth"] [[.float x, .int n]]).properties =
        Sorted.ofList Order.texts [("depth", .int 0)] := by
    intro x n hx
    rw [← hx]
    rfl
  have hquarter := hshown quarter 1 (congrArg Json.int (by decide +kernel))
  have hhalf := hshown half 2 (congrArg Json.int (by decide +kernel))
  intro hnodup
  have hperm := (Order.perm_sort (table.classOrder ["depth"] []) (table.keptClasses ["depth"]
    query.keeps (table.select settings.filter))).map
      (GroupResult.properties ∘ query.showClass settings table ["depth"])
  rw [List.map_map] at hnodup
  have htwo := hperm.nodup_iff.mp hnodup
  rw [Table.keptClasses, hclasses] at htwo
  simp only [query, keepAll, List.filter_true, List.map_cons, List.map_nil, Function.comp_apply,
    hquarter, hhalf] at htwo
  exact absurd htwo (by simp)

end MetricsQuery

end CrawlAudit
