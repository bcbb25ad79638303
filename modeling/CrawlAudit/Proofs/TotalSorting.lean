import CrawlAudit.Proofs.Grouping

/-!
# Sorting by the total order

The total order on cells is a total preorder, and so are the orders of rows by the columns of a
grouping and of groups by the entries of a sorting. By each of them a list has exactly one stable
sort, and the runs of equal elements in it are the classes of the list.
-/

namespace CrawlAudit

open Std

namespace Order

variable {α : Type} {order : α → α → Ordering}

structure IsTotalPreorder (order : α → α → Ordering) : Prop where
  self : ∀ a, order a a = .eq
  swap : ∀ a b, order b a = (order a b).swap
  trans : ∀ a b c, order a b ≠ .gt → order b c ≠ .gt → order a c ≠ .gt

/-- What comes of sorting by a total preorder. Two elements are equal where they compare alike with
all others, so that the classes of equal elements do not depend on how they are found. -/
structure SortsIntoClasses (order : α → α → Ordering) : Prop where
  isTotalPreorder : IsTotalPreorder order
  eq_iff : ∀ a b, order a b = .eq ↔ order a = order b
  isStableSort_iff : ∀ xs sorted, IsStableSort order xs sorted ↔ sorted = sort order xs
  isPartition_runs : ∀ xs, IsPartition (tied order) xs (runs order (sort order xs))

theorem isTotalPreorder [TransCmp order] : IsTotalPreorder order where
  self _ := ReflCmp.compare_self
  swap _ _ := OrientedCmp.eq_swap
  trans a b c hab hbc := by
    have hab := Ordering.ne_gt_iff_isLE.mp hab
    have hbc := Ordering.ne_gt_iff_isLE.mp hbc
    exact Ordering.ne_gt_iff_isLE.mpr (TransCmp.isLE_trans hab hbc)

theorem sortsIntoClasses [TransCmp order] : SortsIntoClasses order where
  isTotalPreorder := isTotalPreorder
  eq_iff a b := by
    constructor
    · intro h
      funext c
      exact TransCmp.congr_left h
    · intro h
      rw [h]
      exact ReflCmp.compare_self
  isStableSort_iff _ _ := isStableSort_iff
  isPartition_runs xs := (isPartition_runs_sort order xs).1

theorem isStableSort_self (h : ∀ a b, order a b = .eq) (xs : List α) : IsStableSort order xs xs :=
  ⟨xs.zipIdx, .refl _, List.zipIdx_map_fst 0 xs,
    (pairwise_zipIdx xs).imp fun hab => Or.inr ⟨h _ _, hab⟩⟩

end Order

instance (keys : List (Option Nat)) : TransCmp (Table.keyOrder keys) := by
  have h (key : Option Nat) :
      TransCmp fun a b : Row => (Table.cellAt a key).totalCompare (Table.cellAt b key) :=
    Order.transCmp_on Cell.totalCompare fun row => Table.cellAt row key
  exact Order.transCmp_lexicographic _ keys

instance (entries : List (String × Direction)) : TransCmp (QuerySettings.groupOrder entries) := by
  have h (e : String × Direction) : TransCmp fun a b : Group =>
      e.2.apply ((a.get e.1).totalCompare (b.get e.1)) :=
    have := Order.transCmp_on Cell.totalCompare fun group : Group => group.get e.1
    e.2.transCmp_apply _
  exact Order.transCmp_lexicographic _ entries

theorem MetricsQuery.isStableSort_orderedGroups (query : MetricsQuery) (settings : QuerySettings)
    (table : Table) (groupBy : List String) :
    Order.IsStableSort (QuerySettings.groupOrder (settings.sort.getD []))
      ((table.groups (table.select settings.filter) (groupBy.map table.columnIndex?)).filter
        query.keeps)
      (query.orderedGroups settings table groupBy) := by
  rw [orderedGroups]
  cases settings.sort with
  | none => exact Order.isStableSort_self (fun _ _ => rfl) _
  | some entries => exact Order.isStableSort_iff.mpr rfl

/-- Cells, rows by the columns of any grouping, and groups by any sorting, whose entries may ascend
and descend, are sorted into classes. Queries group the stable sort of the selected rows and show
the stable sort of the groups. -/
theorem Cell.totalCompare_sortsIntoClasses :
    Order.SortsIntoClasses Cell.totalCompare ∧
      (∀ keys, Order.SortsIntoClasses (Table.keyOrder keys)) ∧
      (∀ entries, Order.SortsIntoClasses (QuerySettings.groupOrder entries)) ∧
      (∀ (table : Table) rows keys, ∃ sorted, Order.IsStableSort (Table.keyOrder keys) rows sorted ∧
        table.groups rows keys =
          (Order.runs (Table.keyOrder keys) sorted).map (table.groupOfRun keys)) ∧
      ∀ (query : MetricsQuery) settings (table : Table) groupBy,
        Order.IsStableSort (QuerySettings.groupOrder (settings.sort.getD []))
          ((table.groups (table.select settings.filter) (groupBy.map table.columnIndex?)).filter
            query.keeps)
          (query.orderedGroups settings table groupBy) := by
  refine ⟨Order.sortsIntoClasses, fun _ => Order.sortsIntoClasses, fun _ => Order.sortsIntoClasses,
    fun table rows keys => ?_, MetricsQuery.isStableSort_orderedGroups⟩
  exact ⟨Order.sort (Table.keyOrder keys) rows, Order.isStableSort_iff.mpr rfl, rfl⟩

end CrawlAudit
