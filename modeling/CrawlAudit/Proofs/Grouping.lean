import CrawlAudit.Proofs.CellOrder
import CrawlAudit.Proofs.Classes
import CrawlAudit.Query.Metrics

/-!
# Groups as classes of rows

The groups of a query are the classes of selected rows with equal cells in the columns of the
grouping. A class has the cells of its first row in these columns and the sums of all its rows in
the others.
-/

namespace CrawlAudit

open Std

namespace Table

/-- Whether two rows have equal cells in all columns of a grouping. -/
def alike (table : Table) (groupBy : List String) (a b : Row) : Bool :=
  groupBy.all fun field => (table.cell a field).totalCompare (table.cell b field) == .eq

/-- The value of a class of rows in a column. -/
def classValue (table : Table) (groupBy : List String) (rows : List Row) (field : String) : Cell :=
  if field ∈ groupBy then table.cell (rows.headD []) field
  else Cell.sum (rows.map fun row => table.cell row field)

/-- A class of rows as a group. -/
def classGroup (table : Table) (groupBy : List String) (rows : List Row) : Group :=
  ⟨table.columns, (List.range table.columns.length).map fun i =>
    if groupBy.any fun field => table.columnIndex? field == some i then (rows.headD []).cell i
    else Cell.sum (rows.map fun row => row.cell i)⟩

/-- The order of classes by their values in the columns of the grouping. -/
def classKeyOrder (table : Table) (groupBy : List String) : List Row → List Row → Ordering :=
  Order.lexicographic (fun field c d =>
    (table.classValue groupBy c field).totalCompare (table.classValue groupBy d field)) groupBy

/-- The order of classes by the entries of a sorting. -/
def classSortOrder (table : Table) (groupBy : List String) (entries : List (String × Direction)) :
    List Row → List Row → Ordering :=
  Order.lexicographic (fun e c d => e.2.apply
    ((table.classValue groupBy c e.1).totalCompare (table.classValue groupBy d e.1))) entries

/-- The order of classes by the entries of a sorting, ties by ascending keys. -/
def classOrder (table : Table) (groupBy : List String) (entries : List (String × Direction)) :
    List Row → List Row → Ordering :=
  compareLex (table.classSortOrder groupBy entries) (table.classKeyOrder groupBy)

/-- The classes of some rows that are kept. -/
def keptClasses (table : Table) (groupBy : List String) (keeps : Group → Bool)
    (rows : List Row) : List (List Row) :=
  (Order.classes (table.alike groupBy) rows).filter fun c => keeps (table.classGroup groupBy c)

/-- The classes of some rows that are kept, in the order in which they are shown. -/
def rankedClasses (table : Table) (groupBy : List String) (entries : List (String × Direction))
    (keeps : Group → Bool) (rows : List Row) : List (List Row) :=
  Order.sort (table.classOrder groupBy entries) (table.keptClasses groupBy keeps rows)

theorem foldl_addRow (rows : List Row) (sums : Row) :
    rows.foldl addRow sums =
      sums.mapIdx fun i total => (rows.map fun row => row.cell i).foldl Cell.add total := by
  induction rows generalizing sums with
  | nil => exact (List.mapIdx_eq_iff.mpr fun i => by simp).symm
  | cons row rows ih =>
      rw [List.foldl_cons, ih, addRow, List.mapIdx_mapIdx]
      rfl

theorem sums_eq (table : Table) (rows : List Row) :
    table.sums rows =
      (List.range table.columns.length).map fun i => Cell.sum (rows.map fun row => row.cell i) := by
  rw [sums, foldl_addRow]
  refine List.ext_getElem (by simp) fun i _ _ => ?_
  rw [List.getElem_mapIdx, List.getElem_replicate, List.getElem_map, List.getElem_range, Cell.sum]

theorem groupOfRun_eq (table : Table) (groupBy : List String) (rows : List Row) :
    table.groupOfRun (groupBy.map table.columnIndex?) rows = table.classGroup groupBy rows := by
  have hkeys : ∀ i, (groupBy.map table.columnIndex?).contains (some i) =
      groupBy.any fun field => table.columnIndex? field == some i := by
    intro i
    induction groupBy with
    | nil => rfl
    | cons field groupBy ih =>
        rw [List.map_cons, List.contains_cons, List.any_cons, ih, Bool.beq_comm]
  rw [groupOfRun, classGroup, sums_eq, Group.mk.injEq]
  refine ⟨rfl, List.ext_getElem (by simp) fun i _ _ => ?_⟩
  simp only [List.getElem_mapIdx, List.getElem_map, List.getElem_range, hkeys]

theorem columnIndex?_inj {table : Table} {f g : String} {i : Nat}
    (hf : table.columnIndex? f = some i) (hg : table.columnIndex? g = some i) : f = g := by
  obtain ⟨_, hfi, _⟩ := List.findIdx?_eq_some_iff_getElem.mp hf
  obtain ⟨_, hgi, _⟩ := List.findIdx?_eq_some_iff_getElem.mp hg
  rw [← eq_of_beq hfi, ← eq_of_beq hgi]

theorem sum_replicate_null (n : Nat) : Cell.sum (List.replicate n .null) = .null := by
  induction n with
  | zero => rfl
  | succ n ih => exact ih

theorem group_get (group : Group) (field : String) :
    group.get field = cellAt group.values (group.columns.findIdx? (· == field)) := by
  rw [Group.get]
  cases group.columns.findIdx? (· == field) <;> rfl

theorem get_classGroup (table : Table) (groupBy : List String) (rows : List Row)
    (field : String) :
    (table.classGroup groupBy rows).get field = table.classValue groupBy rows field := by
  rw [group_get, classValue, cell]
  change cellAt (table.classGroup groupBy rows).values (table.columnIndex? field) = _
  cases hfield : table.columnIndex? field with
  | none =>
      have hsum : Cell.sum (rows.map fun row => table.cell row field) = .null := by
        simp only [cell, hfield, cellAt, List.map_const', sum_replicate_null]
      rw [hsum]
      exact (ite_self Cell.null).symm
  | some i =>
      have hlt : i < table.columns.length := (List.findIdx?_eq_some_iff_getElem.mp hfield).1
      have hkey : (groupBy.any fun g => table.columnIndex? g == some i) = true ↔
          field ∈ groupBy := by
        rw [List.any_eq_true]
        constructor
        · rintro ⟨g, hg, hgi⟩
          exact columnIndex?_inj hfield (eq_of_beq hgi) ▸ hg
        · exact fun h => ⟨field, h, by simp [hfield]⟩
      simp only [Row.cell, classGroup, List.getD_eq_getElem?_getD, List.getElem?_map,
        List.getElem?_range hlt, Option.map_some, Option.getD_some, hkey, cell, hfield, cellAt]

end Table

theorem Direction.transCmp_apply {α : Type} (direction : Direction) (order : α → α → Ordering)
    [TransCmp order] : TransCmp fun a b => direction.apply (order a b) := by
  cases direction with
  | ascending => exact inferInstanceAs (TransCmp order)
  | descending =>
      have hswap : (fun a b => (order a b).swap) = fun a b => order b a := by
        funext a b
        exact OrientedCmp.eq_swap.symm
      change TransCmp fun a b => (order a b).swap
      rw [hswap]
      exact TransCmp.opposite

namespace Table

variable (table : Table) (groupBy : List String)

/-- The order of rows by their cells in the columns of a grouping. -/
def fieldOrder : Row → Row → Ordering :=
  Order.lexicographic (fun field a b => (table.cell a field).totalCompare (table.cell b field))
    groupBy

instance : TransCmp (table.fieldOrder groupBy) := by
  have hfield (field : String) :
      TransCmp fun a b => (table.cell a field).totalCompare (table.cell b field) :=
    Order.transCmp_on Cell.totalCompare fun row => table.cell row field
  exact Order.transCmp_lexicographic _ groupBy

theorem keyOrder_eq : keyOrder (groupBy.map table.columnIndex?) = table.fieldOrder groupBy :=
  Order.lexicographic_map table.columnIndex? _ groupBy

theorem tied_fieldOrder : Order.tied (table.fieldOrder groupBy) = table.alike groupBy := by
  funext a b
  rw [Bool.eq_iff_iff, Order.tied, beq_iff_eq, fieldOrder, Order.lexicographic_eq_eq, alike,
    List.all_eq_true]
  simp only [beq_iff_eq]

theorem transCmp_classValue (field : String) :
    TransCmp fun c d =>
      (table.classValue groupBy c field).totalCompare (table.classValue groupBy d field) :=
  Order.transCmp_on Cell.totalCompare fun rows => table.classValue groupBy rows field

instance : TransCmp (table.classKeyOrder groupBy) := by
  have h := table.transCmp_classValue groupBy
  exact Order.transCmp_lexicographic _ groupBy

theorem classValue_cons_of_mem {field : String} (h : field ∈ groupBy) (row : Row)
    (rows : List Row) :
    table.classValue groupBy (row :: rows) field = table.cell row field :=
  if_pos h

theorem classKeyOrder_cons (a b : Row) (as bs : List Row) :
    table.classKeyOrder groupBy (a :: as) (b :: bs) = table.fieldOrder groupBy a b :=
  Order.lexicographic_congr fun field hfield => by
    rw [classValue_cons_of_mem table groupBy hfield, classValue_cons_of_mem table groupBy hfield]

theorem pairwise_classKeyOrder_runs (rows : List Row) :
    (Order.runs (table.fieldOrder groupBy) (Order.sort (table.fieldOrder groupBy) rows)).Pairwise
      fun c d => table.classKeyOrder groupBy c d = .lt := by
  obtain ⟨hparts, hlt⟩ := Order.isPartition_runs_sort (table.fieldOrder groupBy) rows
  refine hlt.imp_of_mem fun {c d} hc hd hcd => ?_
  obtain ⟨a, as, rfl⟩ := List.exists_cons_of_ne_nil (hparts.ne_nil c hc)
  obtain ⟨b, bs, rfl⟩ := List.exists_cons_of_ne_nil (hparts.ne_nil d hd)
  rw [classKeyOrder_cons]
  exact hcd a (List.mem_cons_self ..) b (List.mem_cons_self ..)

theorem isPartition_alike (rows : List Row) :
    Order.IsPartition (table.alike groupBy) rows (Order.classes (table.alike groupBy) rows) := by
  rw [← tied_fieldOrder]
  exact Order.isPartition_classes rows

theorem exists_row_of_mem_classes {rows c : List Row}
    (hc : c ∈ Order.classes (table.alike groupBy) rows) :
    ∃ row ∈ rows, row ∈ c ∧ c = rows.filter (table.alike groupBy row) ∧
      ∀ f ∈ groupBy, table.classValue groupBy c f = table.cell row f := by
  have hparts := table.isPartition_alike groupBy rows
  obtain ⟨row, others, rfl⟩ := List.exists_cons_of_ne_nil (hparts.ne_nil c hc)
  have hrow : row ∈ row :: others := List.mem_cons_self ..
  exact ⟨row, hparts.mem_of_mem hc hrow, hrow, hparts.eq_filter _ hc row hrow,
    fun f hf => table.classValue_cons_of_mem groupBy hf row others⟩

theorem perm_runs_classes (rows : List Row) :
    (Order.runs (table.fieldOrder groupBy)
      (Order.sort (table.fieldOrder groupBy) rows)).Perm
        (Order.classes (table.alike groupBy) rows) := by
  rw [← tied_fieldOrder]
  exact (Order.isPartition_runs_sort _ rows).1.perm_of_isPartition (Order.isPartition_classes rows)
    Order.tied_self

instance (entries : List (String × Direction)) :
    TransCmp (table.classSortOrder groupBy entries) := by
  have h (e : String × Direction) : TransCmp fun c d => e.2.apply
      ((table.classValue groupBy c e.1).totalCompare (table.classValue groupBy d e.1)) :=
    have := table.transCmp_classValue groupBy e.1
    e.2.transCmp_apply _
  exact Order.transCmp_lexicographic _ entries

instance (entries : List (String × Direction)) : TransCmp (table.classOrder groupBy entries) :=
  inferInstanceAs (TransCmp (compareLex (table.classSortOrder groupBy entries)
    (table.classKeyOrder groupBy)))

/-- The kept runs of the sorted rows are the kept classes by ascending keys. -/
theorem exists_kept_runs (keeps : Group → Bool) (rows : List Row) :
    ∃ runs : List (List Row),
      (table.groups rows (groupBy.map table.columnIndex?)).filter keeps =
        runs.map (table.classGroup groupBy) ∧
      runs.Perm (table.keptClasses groupBy keeps rows) ∧
      runs.Pairwise fun c d => table.classKeyOrder groupBy c d = .lt := by
  refine ⟨(Order.runs (table.fieldOrder groupBy)
    (Order.sort (table.fieldOrder groupBy) rows)).filter fun c =>
      keeps (table.classGroup groupBy c), ?_, ?_, ?_⟩
  · rw [groups, keyOrder_eq, funext (table.groupOfRun_eq groupBy), List.filter_map]
    rfl
  · exact (table.perm_runs_classes groupBy rows).filter _
  · exact (table.pairwise_classKeyOrder_runs groupBy rows).filter _

theorem sort_groupOrder_map (entries : List (String × Direction)) (classes : List (List Row)) :
    Order.sort (QuerySettings.groupOrder entries) (classes.map (table.classGroup groupBy)) =
      (Order.sort (table.classSortOrder groupBy entries) classes).map
        (table.classGroup groupBy) := by
  have horder : (fun c d => QuerySettings.groupOrder entries (table.classGroup groupBy c)
      (table.classGroup groupBy d)) = table.classSortOrder groupBy entries := by
    funext c d
    exact Order.lexicographic_congr fun e _ => by rw [get_classGroup, get_classGroup]
  rw [Order.sort_map, horder]

end Table

namespace MetricsQuery

/-- A class of rows as it is shown. -/
def showClass (query : MetricsQuery) (settings : QuerySettings) (table : Table)
    (groupBy : List String) (rows : List Row) : GroupResult where
  properties := Sorted.ofList Order.texts
    (groupBy.map fun f => (f, FieldCatalog.showDimension (table.classValue groupBy rows f)))
  counters := query.catalog.showCounters (settings.shownFields query.catalog table [])
    fun f => some (table.classValue groupBy rows f)

theorem showGroup_classGroup (query : MetricsQuery) (settings : QuerySettings) (table : Table)
    (groupBy : List String) (rows : List Row) :
    query.showGroup groupBy (settings.shownFields query.catalog table [])
        (table.classGroup groupBy rows) =
      query.showClass settings table groupBy rows := by
  simp only [showGroup, showClass, Table.get_classGroup]

theorem orderedGroups_eq (query : MetricsQuery) (settings : QuerySettings) (table : Table)
    (groupBy : List String) :
    query.orderedGroups settings table groupBy =
      (table.rankedClasses groupBy (settings.sort.getD []) query.keeps
        (table.select settings.filter)).map (table.classGroup groupBy) := by
  obtain ⟨runs, hgroups, hperm, hkeys⟩ :=
    table.exists_kept_runs groupBy query.keeps (table.select settings.filter)
  rw [orderedGroups, hgroups, Table.rankedClasses, Table.classOrder,
    Order.sort_compareLex hkeys hperm, ← Table.sort_groupOrder_map]
  cases settings.sort with
  | some entries => rfl
  | none =>
      -- without a sorting all groups compare equal
      exact (List.mergeSort_of_pairwise (List.pairwise_of_forall fun _ _ => rfl)).symm

end MetricsQuery

end CrawlAudit
