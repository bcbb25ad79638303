import CrawlAudit.Proofs.GroupTotals
import CrawlAudit.Proofs.NestedLeaves
import CrawlAudit.Proofs.RunningSums

/-!
# Lists that a query shows

A list column without numbers is shown as its lists in one, whatever nulls, texts and infinities
stand between them. But a number goes before all lists: with one in the selected rows, the column is
shown as the sum of its numbers.
-/

namespace CrawlAudit

namespace Cell

theorem add_ne_float {total c : Cell} (htotal : total.isCountable = false)
    (hc : c.isCountable = false) (x : Binary64) : total.add c ≠ .float x := by
  simp only [add, htotal, hc]
  cases total <;> cases c <;> simp

theorem staysFinite_of_not_isCountable {total : Cell} {cells : List Cell}
    (htotal : total.isCountable = false) (hcells : ∀ c ∈ cells, c.isCountable = false) :
    StaysFinite total cells := by
  induction cells generalizing total with
  | nil => nofun
  | cons c cells ih =>
      obtain ⟨hc, hcells⟩ := List.forall_mem_cons.mp hcells
      rw [staysFinite_cons]
      constructor
      · intro x hx
        exact absurd hx (add_ne_float htotal hc x)
      · exact ih (isCountable_add htotal hc) hcells

theorem sum_eq_joinedLists {cells : List Cell} (h : ∀ c ∈ cells, c.isCountable = false) :
    sum cells = joinedLists cells := by
  rw [← sum_kept (staysFinite_of_not_isCountable rfl h), kept_eq_filter_isList h,
    sum_filter_isList]

/-- What a sum may be once a number has been counted, unless a double overflows. -/
def IsNumber (total : Cell) : Prop :=
  total.isTotal = true ∧ total.isCountable = true

theorem isNumber_counted {c : Cell} (hc : c.isCountable = true) : c.counted.IsNumber :=
  ⟨isTotal_counted hc, by cases c <;> first | rfl | exact hc⟩

theorem isNumber_add {total c : Cell} (htotal : total.IsNumber)
    (h : ∀ x, total.add c = .float x → x.isFinite = true) : (total.add c).IsNumber := by
  refine ⟨isTotal_add h, ?_⟩
  cases hc : c.isCountable with
  | false =>
      have hadd : total.add c = total.counted := by simp only [add, htotal.2, hc]
      rw [hadd]
      exact (isNumber_counted htotal.2).2
  | true =>
      rw [add_eq_sumNumbers htotal.2 hc, sumNumbers_eq] at h ⊢
      split at h
      · next hfloat => rw [if_pos hfloat]; exact h _ rfl
      · next hfloat => rw [if_neg hfloat]; rfl

theorem add_of_isNumber {total c : Cell} (htotal : total.IsNumber)
    (hc : (!c.isCountable) = true) : total.add c = total := by
  obtain ⟨htotal, hcount⟩ := htotal
  have hc : c.isCountable = false := by simpa using hc
  have hadd : total.add c = total.counted := by simp only [add, hcount, hc]
  rw [hadd]
  cases total <;> first | rfl | contradiction

theorem filter_not_not_isCountable (cells : List Cell) :
    (cells.filter fun c => !(!c.isCountable)) = cells.filter isCountable := by
  simp only [Bool.not_not]

/-- The first number takes the place of the lists before it, and no list is joined to a number. -/
theorem sum_eq_numericSum {cells : List Cell} (hany : cells.any isCountable = true)
    (hfinite : StaysFinite .null cells) : sum cells = numericSum cells := by
  obtain ⟨d, hd⟩ := Option.isSome_iff_exists.mp (List.find?_isSome.mpr (List.any_eq_true.mp hany))
  obtain ⟨hcount, front, back, rfl, hfront⟩ := List.find?_eq_some_iff_append.mp hd
  have hnone : ∀ c ∈ front, c.isCountable = false := by simpa using hfront
  have hd : (sum front).add d = d.counted := add_of_not_isCountable (isCountable_sum hnone) hcount
  have hnumbers : (front ++ d :: back).filter isCountable = d :: back.filter isCountable := by
    rw [List.filter_append, List.filter_eq_nil_iff.mpr (by simpa using hnone), List.nil_append,
      List.filter_cons_of_pos hcount]
  obtain ⟨-, hfinite⟩ := staysFinite_append.mp hfinite
  obtain ⟨hdouble, hback⟩ := staysFinite_cons.mp hfinite
  rw [show front.foldl add .null = sum front from rfl, hd] at hdouble hback
  have hstart := isNumber_counted hcount
  rw [← sum_filter_isCountable, hnumbers]
  · calc sum (front ++ d :: back)
      _ = back.foldl add d.counted := by rw [sum, List.foldl_append, List.foldl_cons, ← sum, hd]
      _ = (back.filter isCountable).foldl add d.counted := by
        rw [← filter_not_not_isCountable]
        exact (foldl_add_filter isNumber_add add_of_isNumber hstart hback).symm
      _ = sum (d :: back.filter isCountable) := by rw [sum, List.foldl_cons, null_add hcount]
  · rw [hnumbers, staysFinite_cons, null_add hcount, ← filter_not_not_isCountable]
    refine ⟨hdouble, ?_⟩
    exact (staysFinite_filter isNumber_add add_of_isNumber And.right hstart back).mpr hback

end Cell

namespace FieldCatalog

variable {catalog : FieldCatalog} {fields : List String} {field : String}
variable {lookup : String → Option Cell}

theorem members?_showCounter (catalog : FieldCatalog) (field : String) (value : Option Cell) :
    (catalog.showCounter field value).members? = none := by
  rw [showCounter]
  split_ifs
  · rcases value with - | (_ | _ | _ | _ | _ | _) <;> rfl
  · rfl

theorem members?_of_mem_shown :
    ∀ p ∈ fields.map fun f => (f, catalog.showCounter f (lookup f)), p.2.members? = none := by
  intro p hp
  obtain ⟨f, -, rfl⟩ := List.mem_map.mp hp
  exact catalog.members?_showCounter f (lookup f)

theorem isNested_showCounters (catalog : FieldCatalog) (fields : List String)
    (lookup : String → Option Cell) : Nesting.IsNested (catalog.showCounters fields lookup) :=
  Nesting.isNested_nest members?_of_mem_shown

theorem leads_showCounters (hfield : field ∈ fields) (hseparate : IsSeparate field fields) :
    Nesting.Leads (Nesting.segments field) (catalog.showCounters fields lookup)
      (catalog.showCounter field (lookup field)) := by
  rw [Nesting.leads_iff_at? (catalog.isNested_showCounters fields lookup)]
  exact Nesting.at?_nest (fun f => catalog.showCounter f (lookup f)) hfield hseparate

theorem eq_showCounter_of_leads {value : Json} (hvalue : value.members? = none)
    (h : Nesting.Leads (Nesting.segments field) (catalog.showCounters fields lookup) value) :
    value = catalog.showCounter field (lookup field) := by
  rw [Nesting.leads_iff_at? (catalog.isNested_showCounters fields lookup)] at h
  have hleaf : Nesting.leaf? (Nesting.segments field) (catalog.showCounters fields lookup) =
      some value := by
    rw [Nesting.leaf?, h, Option.filter_some, hvalue]
    rfl
  rw [showCounters, Nesting.leaf?_nest members?_of_mem_shown] at hleaf
  obtain ⟨pair, hlast, hpair⟩ := Option.bind_eq_some_iff.mp hleaf
  obtain ⟨f, -, rfl⟩ := List.mem_map.mp (List.mem_filter.mp (List.mem_of_getLast? hlast)).1
  obtain ⟨hsegments, hshown⟩ := by simpa [ite_eq_iff] using hpair
  obtain rfl := Nesting.segments_injective hsegments
  exact hshown.symm

theorem exists_shownList_eq_array (value : Option Cell) :
    ∃ items, shownList value = .array items := by
  rcases value with - | (_ | _ | _ | _ | _ | _) <;> exact ⟨_, rfl⟩

theorem shownList_joinedLists (cells : List Cell) :
    shownList (some (Cell.joinedLists cells)) =
      .array ((cells.flatMap Cell.items).map Cell.toJson) := by
  have hitems : (cells.filter Cell.isList).flatMap Cell.items = cells.flatMap Cell.items := by
    induction cells with
    | nil => rfl
    | cons c cells ih => cases c <;> simpa [List.filter_cons, Cell.isList, Cell.items] using ih
  rw [← hitems, Cell.joinedLists]
  cases cells.filter Cell.isList with
  | nil => rfl
  | cons c lists => rfl

theorem shownList_numericTotal {integers : List Int64} {doubles : List Binary64}
    (h : ¬(integers = [] ∧ doubles = [])) :
    shownList (some (Cell.numericTotal integers doubles)) =
      .array [(Cell.numericTotal integers doubles).toJson] := by
  cases integers <;> cases doubles <;> first | rfl | exact absurd ⟨rfl, rfl⟩ h

theorem shownList_numericSum {cells : List Cell} (hany : cells.any Cell.isCountable = true) :
    shownList (some (Cell.numericSum cells)) = .array [(Cell.numericSum cells).toJson] := by
  apply shownList_numericTotal
  rintro ⟨hintegers, hdoubles⟩
  have hsplit := List.takeWhile_append_dropWhile (p := fun c => !Cell.isFloat c)
    (l := cells.filter Cell.isCountable)
  rw [List.map_eq_nil_iff.mp hintegers, List.map_eq_nil_iff.mp hdoubles] at hsplit
  obtain ⟨c, hc, hcount⟩ := List.any_eq_true.mp hany
  exact List.filter_eq_nil_iff.mp hsplit.symm c hc hcount

end FieldCatalog

namespace MetricsQuery

variable (query : MetricsQuery) (store : TableStore) (settings : QuerySettings) (table : Table)
variable (field : String)

/-- A query without a grouping shows a list column without numbers as its lists in one, in the order
of the rows. With a number among its cells, and unless a double overflows, it shows the sum of the
numbers only. -/
theorem run_shownLists (htable : store.table? TableStore.crawlTable = some table)
    (hvalid : settings.validate query.catalog table query.check = .ok ())
    (hgroupBy : settings.groupBy.getD [] = []) (hlist : query.catalog.isList field = true) :
    let cells := table.columnCells (table.select settings.filter) field
    ∃ counters, query.run store settings = .ok (.aggregate counters) ∧
      (field ∈ settings.shownFields query.catalog table [] →
        IsSeparate field (settings.shownFields query.catalog table []) →
        ∃ items, Nesting.Leads (Nesting.segments field) counters (.array items)) ∧
      ∀ value, value.members? = none → Nesting.Leads (Nesting.segments field) counters value →
        ((∀ c ∈ cells, c.isCountable = false) →
          value = .array ((cells.flatMap Cell.items).map Cell.toJson)) ∧
        (cells.any Cell.isCountable = true → Cell.StaysFinite .null cells →
          value = .array [(Cell.numericSum cells).toJson]) := by
  intro cells
  have hrun := query.run_eq_result htable hvalid
  rw [query.result_eq_aggregate hgroupBy] at hrun
  have hshown (value : Option Cell) :
      query.catalog.showCounter field value = FieldCatalog.shownList value := if_pos hlist
  refine ⟨_, hrun, fun hfield hseparate => ?_, fun value hvalue hleads => ?_⟩
  · obtain ⟨items, hitems⟩ := FieldCatalog.exists_shownList_eq_array (some (Cell.sum cells))
    refine ⟨items, ?_⟩
    rw [← hitems, ← hshown]
    exact FieldCatalog.leads_showCounters hfield hseparate
  · have heq := FieldCatalog.eq_showCounter_of_leads hvalue hleads
    rw [hshown] at heq
    constructor
    · intro hnone
      rw [heq, Cell.sum_eq_joinedLists hnone, FieldCatalog.shownList_joinedLists]
    · intro hany hfinite
      rw [heq, Cell.sum_eq_numericSum hany hfinite, FieldCatalog.shownList_numericSum hany]

/-- Texts, nulls and doubles that are not finite between lists, and a number between others, in the
rows that a filter selects. -/
theorem run_shownLists_of_mixed_columns :
    let table : Table := ⟨["host", "error_links.4xx.urls", "error_links.5xx.urls"],
      [[.text "a", .text "/x", .list [.text "/y"]], [.text "b", .list [.int 7], .int 7],
        [.text "a", .list [.text "/c", .null], .bool true], [.text "a", .float .nan],
        [.text "a", .list [.text "/d"], .list [.text "/z"]]]⟩
    let filter : Filter := ⟨.object [("field", .text "host"), ("predicate", .text "starts"),
      ("value", .text "a")], .leaf ⟨"host", .starts, .text "a", false, none⟩⟩
    let settings : QuerySettings := { QuerySettings.default with
      fields := some ["error_links"], filter := some filter }
    let query : MetricsQuery := ⟨.crawl, .strict, keepAll⟩
    let store : TableStore := [(TableStore.crawlTable, table)]
    ∃ counters, query.run store settings = .ok (.aggregate counters) ∧
      Nesting.Leads ["error_links", "4xx", "urls"] counters
        (.array [.text "/c", .null, .text "/d"]) ∧
      Nesting.Leads ["error_links", "5xx", "urls"] counters (.array [.int 1]) := by
  intro table filter settings query store
  have hvalid : settings.validate query.catalog table query.check = .ok () :=
    FieldCatalog.validate_eq_ok_iff.mpr (by decide +kernel)
  obtain ⟨counters, hrun, hleads, hvalue⟩ :=
    run_shownLists query store settings table "error_links.4xx.urls" rfl hvalid rfl rfl
  obtain ⟨counters', hrun', hleads', hvalue'⟩ :=
    run_shownLists query store settings table "error_links.5xx.urls" rfl hvalid rfl rfl
  obtain rfl := QueryResult.aggregate.inj (Except.ok.inj (hrun.symm.trans hrun'))
  have hshown : settings.shownFields query.catalog table [] =
      ["error_links.3xx.nb", "error_links.3xx.urls", "error_links.4xx.nb", "error_links.4xx.urls",
        "error_links.5xx.nb", "error_links.5xx.urls"] := by decide +kernel
  rw [hshown] at hleads hleads'
  obtain ⟨items, hitems⟩ := hleads (by decide) (by decide +kernel)
  obtain ⟨items', hitems'⟩ := hleads' (by decide) (by decide +kernel)
  have hlists := (hvalue _ rfl hitems).1 (by decide +kernel)
  have hnumbers := (hvalue' _ rfl hitems').2 (by decide +kernel) (by decide +kernel)
  have hpath : Nesting.segments "error_links.4xx.urls" = ["error_links", "4xx", "urls"] := by
    decide +kernel
  have hpath' : Nesting.segments "error_links.5xx.urls" = ["error_links", "5xx", "urls"] := by
    decide +kernel
  have hcells : (table.columnCells (table.select settings.filter)
      "error_links.4xx.urls").flatMap Cell.items = [.text "/c", .null, .text "/d"] := rfl
  have hsum : Cell.numericSum (table.columnCells (table.select settings.filter)
      "error_links.5xx.urls") = .int 1 := rfl
  rw [hlists, hpath, hcells] at hitems
  rw [hnumbers, hpath', hsum] at hitems'
  simp only [List.map_cons, List.map_nil, Cell.toJson] at hitems hitems'
  exact ⟨counters, hrun, hitems, hitems'⟩

/-- A number in a later row discards a list. -/
theorem not_shows_lists_of_number :
    let field := "error_links.4xx.urls"
    let table : Table := ⟨[field], [[.list [.text "/a"]], [.int 3]]⟩
    let settings : QuerySettings := { QuerySettings.default with fields := some [field] }
    let query : MetricsQuery := ⟨.crawl, .strict, keepAll⟩
    let cells := table.columnCells (table.select settings.filter) field
    ∃ counters items, query.catalog.isList field = true ∧ field ∈ table.columns ∧
      query.run [(TableStore.crawlTable, table)] settings = .ok (.aggregate counters) ∧
      Nesting.Leads (Nesting.segments field) counters (.array items) ∧
      ¬((cells.flatMap Cell.items).map Cell.toJson).Sublist items := by
  intro field table settings query cells
  have hvalid : settings.validate query.catalog table query.check = .ok () :=
    FieldCatalog.validate_eq_ok_iff.mpr (by decide +kernel)
  have hrun : query.run [(TableStore.crawlTable, table)] settings =
      .ok (query.result settings table) := query.run_eq_result rfl hvalid
  rw [query.result_eq_aggregate rfl] at hrun
  have hshown : settings.shownFields query.catalog table [] = [field] := by decide +kernel
  rw [hshown] at hrun
  have hcells : cells.flatMap Cell.items = [.text "/a"] := rfl
  have hlist : FieldCatalog.shownList (some (Cell.sum cells)) = .array [(Cell.int 3).toJson] := rfl
  have hcounter : query.catalog.showCounter field (some (Cell.sum cells)) =
      .array [(Cell.int 3).toJson] := by rw [FieldCatalog.showCounter, if_pos (by decide), hlist]
  refine ⟨_, [(Cell.int 3).toJson], rfl, List.mem_singleton_self field, hrun, ?_, ?_⟩
  · rw [← hcounter]
    exact FieldCatalog.leads_showCounters (List.mem_singleton_self field) (by decide +kernel)
  · simp [hcells, Cell.toJson]

end MetricsQuery

end CrawlAudit
