import CrawlAudit.Proofs.ExpandedFields
import CrawlAudit.Proofs.NestedLeaves
import CrawlAudit.Proofs.QueryRuns
import CrawlAudit.Proofs.ShownCounts
import Mathlib.Data.List.Forall2

/-!
# Groups as they are shown

A grouped query shows the classes of the selected rows that are kept. The properties of a result are
the key cells of its class, and its counters are the class values of the fields that are asked for,
each at its path.
-/

namespace CrawlAudit

namespace Cell

/-- The integer that a number is shown as: the integer part of a finite double, within 64 bits. What
is no number counts as zero. -/
def wholeNumber : Cell → Int
  | .bool b => if b then 1 else 0
  | .int n => n.toInt
  | .float x =>
    if x.isFinite then max Int64.minValue.toInt (min x.truncate Int64.maxValue.toInt) else 0
  | _ => 0

/-- The items that a cell is shown as in a list: a single value is one item, and null is none. -/
def listedItems : Cell → List Cell
  | .null => []
  | .list items => items
  | single => [single]

/-- A key cell as it is shown: a double by its integer part. -/
def displayed : Cell → Json
  | .float x => .int (wholeNumber (.float x))
  | c => c.toJson

theorem toInt_shownNumber (c : Cell) :
    (FieldCatalog.shownNumber (some c)).toInt = c.wholeNumber := by
  cases c with
  | bool b => cases b <;> rfl
  | float x =>
      simp only [FieldCatalog.shownNumber, integer?, wholeNumber]
      split_ifs
      · exact toInt_ofIntClamp x.truncate
      · rfl
  | _ => rfl

theorem shownList_eq (c : Cell) :
    FieldCatalog.shownList (some c) = .array (c.listedItems.map toJson) := by
  cases c <;> rfl

theorem showDimension_eq (c : Cell) : FieldCatalog.showDimension c = c.displayed := by
  cases c with
  | float x => exact congrArg Json.int (toInt_shownNumber (.float x))
  | _ => rfl

end Cell

namespace FieldCatalog

variable (catalog : FieldCatalog)

/-- A counter as it is shown: a list column by its items, every other one as an integer. -/
def counterForm (field : String) (value : Cell) : Json :=
  if field ∈ catalog.lists then .array (value.listedItems.map Cell.toJson)
  else .int value.wholeNumber

/-- The counters of which a field is a dotted prefix, or the field itself. -/
def standsFor (field : String) : List String :=
  let under := catalog.counters.filter fun counter => IsDottedPrefix field counter
  if under = [] then [field] else under

theorem showCounter_eq (field : String) (value : Cell) :
    catalog.showCounter field (some value) = catalog.counterForm field value := by
  simp only [showCounter, counterForm, isList, List.contains_iff_mem, Cell.shownList_eq,
    Cell.toInt_shownNumber]

theorem members?_counterForm (field : String) (value : Cell) :
    (catalog.counterForm field value).members? = none := by
  rw [counterForm]
  split_ifs <;> rfl

theorem expand_eq (fields : List String) :
    catalog.expand fields = fields.flatMap catalog.standsFor := by
  refine List.flatMap_congr fun field _ => ?_
  have hunder : catalog.children field =
      catalog.counters.filter fun counter => IsDottedPrefix field counter :=
    List.filter_congr fun counter _ => by
      rw [Bool.eq_iff_iff, decide_eq_true_iff, isUnder_iff_isDottedPrefix]
  rw [standsFor, ← hunder, hasChildren]
  cases catalog.children field <;> rfl

end FieldCatalog

namespace QuerySettings

/-- The fields that are asked for: those that are named, or the columns that are no dimensions. -/
def requestedFields (settings : QuerySettings) (catalog : FieldCatalog) (table : Table) :
    List String :=
  settings.fields.getD (table.columns.filter fun column => column ∉ catalog.dimensions)

theorem shownFields_eq (settings : QuerySettings) (catalog : FieldCatalog) (table : Table) :
    settings.shownFields catalog table [] =
      (settings.requestedFields catalog table).flatMap catalog.standsFor := by
  rw [shownFields, requestedFields, ← catalog.expand_eq]
  cases settings.fields with
  | some fields => rfl
  | none =>
      simp [FieldCatalog.isDimension]

end QuerySettings

/-- A result shows the cells of the keys as its properties, and of the counters exactly the values
of some fields. Where the path of a field leads on to or from that of another one, the later field
is shown. -/
structure GroupResult.Shows (catalog : FieldCatalog) (keys fields : List String)
    (value : String → Cell) (result : GroupResult) : Prop where
  isSorted : Sorted.IsSorted Order.texts result.properties
  mem_properties : ∀ field shown, (field, shown) ∈ result.properties ↔
    field ∈ keys ∧ shown = (value field).displayed
  isNested : Nesting.IsNested result.counters
  leads_counters : ∀ path shown, shown.members? = none →
    (Nesting.Leads path result.counters shown ↔
      ∃ field, (fields.filter fun f =>
          path <+: Nesting.segments f ∨ Nesting.segments f <+: path).getLast? = some field ∧
        Nesting.segments field = path ∧ shown = catalog.counterForm field (value field))

namespace Nesting

theorem leads_nest_map_iff {fields : List String} {form : String → Json}
    (hform : ∀ field, (form field).members? = none) {path : List String} {shown : Json}
    (hshown : shown.members? = none) :
    Leads path (nest (fields.map fun field => (field, form field))) shown ↔
      ∃ field, (fields.filter fun f =>
          path <+: segments f ∨ segments f <+: path).getLast? = some field ∧
        segments field = path ∧ shown = form field := by
  have hvalues : ∀ p ∈ fields.map fun field => (field, form field), p.2.members? = none :=
    List.forall_mem_map.mpr fun field _ => hform field
  have hmeets : (fun field => meets path (field, form field)) =
      fun f => decide (path <+: segments f ∨ segments f <+: path) := by
    funext f
    rw [Bool.eq_iff_iff, meets_eq_true, decide_eq_true_iff]
  rw [leads_iff_leaf? (isNested_nest hvalues) hshown, leaf?_nest hvalues, List.filter_map,
    List.getLast?_map, Function.comp_def, hmeets, Option.bind_map, Option.bind_eq_some_iff]
  simp only [Function.comp_apply, ite_eq_iff, Option.some.injEq, reduceCtorEq, and_false, or_false]
  simp only [eq_comm]

end Nesting

namespace MetricsQuery

variable (query : MetricsQuery) (store : TableStore) (settings : QuerySettings) (table : Table)
variable (groupBy : List String)

theorem shows_showClass (rows : List Row) :
    (query.showClass settings table groupBy rows).Shows query.catalog groupBy
      ((settings.requestedFields query.catalog table).flatMap query.catalog.standsFor)
      (table.classValue groupBy rows) := by
  have hsorted : Sorted.IsSorted Order.texts
      (query.showClass settings table groupBy rows).properties := Sorted.isSorted_ofList _
  have hcounters : (query.showClass settings table groupBy rows).counters =
      Nesting.nest ((settings.requestedFields query.catalog table).flatMap
        query.catalog.standsFor |>.map fun field =>
          (field, query.catalog.counterForm field (table.classValue groupBy rows field))) := by
    simp only [showClass, FieldCatalog.showCounters, FieldCatalog.showCounter_eq,
      QuerySettings.shownFields_eq]
  have hform := fun field =>
    query.catalog.members?_counterForm field (table.classValue groupBy rows field)
  constructor
  case isSorted => exact hsorted
  case mem_properties =>
    intro field shown
    rw [← Sorted.lookup_eq_some_iff hsorted, showClass, Sorted.lookup_ofList_map,
      Cell.showDimension_eq]
    simp only [ite_eq_iff, Option.some.injEq, reduceCtorEq, and_false, or_false]
    exact and_congr_right fun _ => eq_comm
  case isNested =>
    rw [hcounters]
    exact Nesting.isNested_nest (List.forall_mem_map.mpr fun field _ => hform field)
  case leads_counters =>
    intro path shown hshown
    rw [hcounters]
    exact Nesting.leads_nest_map_iff hform hshown

/-- A grouped query shows the classes of the selected rows that are kept, strictly ordered by the
sorting and the keys, each by its keys and by the values of the fields that are asked for. -/
theorem run_grouped (htable : store.table? TableStore.crawlTable = some table)
    (hvalid : settings.validate query.catalog table query.check = .ok ())
    (hgroupBy : settings.groupBy = some groupBy) (hne : groupBy ≠ []) :
    let rows := table.select settings.filter
    let ranked := table.rankedClasses groupBy (settings.sort.getD []) query.keeps rows
    let fields := (settings.requestedFields query.catalog table).flatMap query.catalog.standsFor
    Order.IsPartition (table.alike groupBy) rows (Order.classes (table.alike groupBy) rows) ∧
      ranked.Perm (table.keptClasses groupBy query.keeps rows) ∧
      (ranked.Pairwise fun c d =>
        table.classOrder groupBy (settings.sort.getD []) c d = .lt) ∧
      (∀ c field, (table.classGroup groupBy c).get field = table.classValue groupBy c field) ∧
      ∃ results, query.run store settings = .ok (.grouped results) ∧
        List.Forall₂ (fun c result => result.Shows query.catalog groupBy fields
          (table.classValue groupBy c)) ranked results := by
  intro rows ranked fields
  refine ⟨table.isPartition_alike groupBy rows, Order.perm_sort _ _,
    table.pairwise_rankedClasses groupBy _ query.keeps rows, table.get_classGroup groupBy,
    _, query.run_eq_grouped htable hvalid hgroupBy hne, ?_⟩
  rw [List.forall₂_map_right_iff, List.forall₂_same]
  exact fun c _ => query.shows_showClass settings table groupBy c

/-- Classes that tie in the sorting, a class that is not kept, a short row and a missing column; a
truth value, lists in a nested counter, and a field whose path leads on from another one. -/
theorem run_grouped_of_ties :
    let page (host : String) (count urls : Cell) : Row := [.text host, count, urls]
    let table : Table := ⟨["host", "n", "e.urls"],
      [page "b" (.int 5) (.list [.int 7]), page "a" (.int 4) (.text "/x"), page "c" (.int 9) .null,
        [.text "b"], page "a" (.bool true) .null, page "d" (.int 1) .null]⟩
    let groupBy := ["index", "host"]
    let settings : QuerySettings := { QuerySettings.default with
      fields := some ["n.a", "n", "e"], groupBy := groupBy, sort := some [("n", .descending)] }
    let query : MetricsQuery := ⟨⟨["host", "index"], ["n", "e.nb", "e.urls"], ["e.urls"]⟩,
      .advisory, fun group => 1 < FieldCatalog.shownNumber (some (group.get "n"))⟩
    let ranked := [[page "c" (.int 9) .null], [page "a" (.int 4) (.text "/x"),
      page "a" (.bool true) .null], [page "b" (.int 5) (.list [.int 7]), [.text "b"]]]
    let shown (host : String) (count : Int) (urls : List Json) : GroupResult :=
      ⟨[("host", .text host), ("index", .null)],
        [("e", .object [("nb", .int 0), ("urls", .array urls)]), ("n", .int count)]⟩
    let results := [shown "c" 9 [], shown "a" 5 [], shown "b" 5 [.int 7]]
    settings.validate query.catalog table query.check = .ok () ∧
      query.run [(TableStore.crawlTable, table)] settings = .ok (.grouped results) ∧
      List.Forall₂ (fun c result => result.Shows query.catalog groupBy
        ["n.a", "n", "e.nb", "e.urls"] (table.classValue groupBy c)) ranked results := by
  intro page table groupBy settings query ranked shown results
  have hvalid : settings.validate query.catalog table query.check = .ok () := rfl
  have hkept : table.keptClasses groupBy query.keeps (table.select none) =
      [[page "b" (.int 5) (.list [.int 7]), [.text "b"]],
        [page "a" (.int 4) (.text "/x"), page "a" (.bool true) .null],
        [page "c" (.int 9) .null]] := by decide +kernel
  have hranked : table.rankedClasses groupBy [("n", .descending)] query.keeps
      (table.select none) = ranked := by
    refine Order.sort_eq_of_pairwise (by decide +kernel) ?_
    rw [hkept]
    exact List.reverse_perm [_, _, _]
  have hresults : ranked.map (query.showClass settings table groupBy) = results := by
    have hshown : settings.shownFields query.catalog table [] = ["n.a", "n", "e.nb", "e.urls"] := by
      decide +kernel
    have hvalues : ranked.map (fun c => ["index", "host", "n.a", "n", "e.nb", "e.urls"].map
        (table.classValue groupBy c)) =
        [[.null, .text "c", .null, .int 9, .null, .null],
          [.null, .text "a", .null, .int 5, .null, .null],
          [.null, .text "b", .null, .int 5, .null, .list [.int 7]]] := by
      decide +kernel
    simp only [ranked, List.map_cons, List.map_nil, List.cons.injEq, and_true] at hvalues
    simp only [ranked, groupBy, List.map_cons, List.map_nil, showClass, FieldCatalog.showCounters,
      hshown, hvalues, FieldCatalog.showDimension, FieldCatalog.showCounter,
      FieldCatalog.shownList, Cell.toJson]
    decide +kernel
  have hfields : (settings.requestedFields query.catalog table).flatMap query.catalog.standsFor =
      ["n.a", "n", "e.nb", "e.urls"] := by
    decide +kernel
  have hrun : query.run [(TableStore.crawlTable, table)] settings = .ok (.grouped results) := by
    rw [query.run_eq_grouped rfl hvalid rfl (by decide), ← hresults, ← hranked]
    rfl
  obtain ⟨-, -, -, -, results', hrun', hshows⟩ := run_grouped query
    [(TableStore.crawlTable, table)] settings table groupBy rfl hvalid rfl (by decide)
  obtain rfl := QueryResult.grouped.inj (Except.ok.inj (hrun.symm.trans hrun'))
  rw [hfields] at hshows
  refine ⟨hvalid, hrun, ?_⟩
  rw [← hranked]
  exact hshows

end MetricsQuery

end CrawlAudit
