import CrawlAudit.Proofs.Distinct
import CrawlAudit.Proofs.Grouping
import CrawlAudit.Proofs.KeyTexts
import CrawlAudit.Proofs.SortedMap
import CrawlAudit.Query.Suggest

/-!
# Patterns by key

The patterns of a table are the classes of selected rows with equal key cells. Where the key cells
agree with their texts there is one pattern for each text, with the sums of the rows that carry it.
-/

namespace CrawlAudit.SuggestQuery

section Keys

variable (table : Table)

/-- The text of the key of a row. -/
def rowKey? (row : Row) : Option String :=
  (table.cell row keyColumn).keyText?

/-- The keys of some rows, each once. -/
def keysOf (rows : List Row) : List String :=
  (rows.filterMap (rowKey? table)).eraseDups

/-- The rows that carry a key. -/
def rowsWithKey (rows : List Row) (key : String) : List Row :=
  rows.filter fun row => rowKey? table row == some key

/-- The key cells of some rows. -/
def keyCells (rows : List Row) : List Cell :=
  rows.map fun row => table.cell row keyColumn

/-- One pattern for each key of some rows. Its counters are the given fields, each with its value
for the rows that carry the key. -/
structure OnePerKey (value : List Row → String → Cell) (fields : List String) (rows : List Row)
    (patterns : List PatternResult) : Prop where
  keys : (patterns.map PatternResult.key).Perm (keysOf table rows)
  counters : ∀ p ∈ patterns, ∀ field, p.counter? field =
    if field ∈ fields then some (value (rowsWithKey table rows p.key) field) else none
  children : ∀ p ∈ patterns, p.children = []

/-- The pattern of a class of rows, by the key of its first row. -/
def classPattern? (fields : List String) (rows : List Row) : Option PatternResult :=
  (rowKey? table (rows.headD [])).map fun key =>
    .mk key (Sorted.ofList Order.texts
      (fields.map fun field => (field, table.classValue [keyColumn] rows field))) []

end Keys

variable {table : Table}

theorem mem_keysOf {rows : List Row} {key : String} :
    key ∈ keysOf table rows ↔ ∃ row ∈ rows, rowKey? table row = some key := by
  rw [keysOf, List.mem_eraseDups, List.mem_filterMap]

theorem pattern?_classGroup (fields : List String) (target : String) (rows : List Row) :
    pattern? fields target (table.classGroup [keyColumn] rows) =
      classPattern? table (fields ++ [target]) rows := by
  have hkey : table.classValue [keyColumn] rows keyColumn =
      table.cell (rows.headD []) keyColumn := if_pos (List.mem_singleton_self _)
  simp only [pattern?, classPattern?, Table.get_classGroup, hkey, rowKey?]

theorem rankedPatterns_perm (settings : QuerySettings) (table : Table) {keyIndex : Nat}
    (hkey : table.columnIndex? keyColumn = some keyIndex) (fields : List String) :
    (rankedPatterns settings table keyIndex fields).Perm
      ((Order.classes (table.alike [keyColumn]) (table.select settings.filter)).filterMap
        (classPattern? table (fields ++ [settings.target]))) := by
  obtain ⟨runs, hgroups, hperm, -⟩ :=
    table.exists_kept_runs [keyColumn] (fun _ => true) (table.select settings.filter)
  rw [List.filter_true, List.map_singleton, hkey] at hgroups
  have hclasses : table.keptClasses [keyColumn] (fun _ => true) (table.select settings.filter) =
      Order.classes (table.alike [keyColumn]) (table.select settings.filter) :=
    List.filter_true _
  rw [hclasses] at hperm
  have hruns : runs.filterMap (classPattern? table (fields ++ [settings.target])) =
      (runs.map (table.classGroup [keyColumn])).filterMap (pattern? fields settings.target) := by
    rw [List.filterMap_map]
    congr 1
    funext rows
    exact (pattern?_classGroup fields settings.target rows).symm
  rw [rankedPatterns, hgroups]
  refine ((Order.perm_sort _ _).filterMap _).trans ?_
  rw [← hruns]
  exact hperm.filterMap _

section Agreement

variable {rows : List Row} (hagree : Cell.KeysAgree (keyCells table rows))

include hagree

theorem alike_iff_of_rowKey {a b : Row} (ha : a ∈ rows) (hb : b ∈ rows) {key : String}
    (hkey : rowKey? table a = some key) :
    table.alike [keyColumn] a b = true ↔ rowKey? table b = some key := by
  have h := Cell.keysAgree_iff.mp hagree _ (List.mem_map_of_mem ha) _ (List.mem_map_of_mem hb) key
    hkey
  simpa [Table.alike, rowKey?] using h

/-- A class whose first row has a key holds the rows that carry this key. -/
theorem class_eq_rowsWithKey {rows' : List Row}
    (hclass : rows' ∈ Order.classes (table.alike [keyColumn]) rows) {key : String}
    (hkey : rowKey? table (rows'.headD []) = some key) :
    rows' = rowsWithKey table rows key ∧ rows'.headD [] ∈ rows := by
  have hparts := table.isPartition_alike [keyColumn] rows
  obtain ⟨first, rest, rfl⟩ := List.exists_cons_of_ne_nil (hparts.ne_nil _ hclass)
  have hfirst : first ∈ rows := hparts.mem_of_mem hclass (List.mem_cons_self ..)
  refine ⟨(hparts.eq_filter _ hclass first (List.mem_cons_self ..)).trans ?_, hfirst⟩
  refine List.filter_congr fun row hrow => ?_
  rw [Bool.eq_iff_iff, beq_iff_eq]
  exact alike_iff_of_rowKey hagree hfirst hrow hkey

theorem keys_classes :
    ((Order.classes (table.alike [keyColumn]) rows).filterMap fun rows' =>
      rowKey? table (rows'.headD [])).Perm (keysOf table rows) := by
  have hparts := table.isPartition_alike [keyColumn] rows
  have hnodup : ((Order.classes (table.alike [keyColumn]) rows).filterMap fun rows' =>
      rowKey? table (rows'.headD [])).Nodup := by
    refine List.pairwise_filterMap.mpr (hparts.apart.imp_of_mem ?_)
    rintro c d hc hd hcd key hckey key' hdkey rfl
    -- the first rows of two classes with one key would be alike
    obtain ⟨first, rest, rfl⟩ := List.exists_cons_of_ne_nil (hparts.ne_nil c hc)
    obtain ⟨first', rest', rfl⟩ := List.exists_cons_of_ne_nil (hparts.ne_nil d hd)
    have hfirst : first ∈ rows := hparts.mem_of_mem hc (List.mem_cons_self ..)
    have hfirst' : first' ∈ rows := hparts.mem_of_mem hd (List.mem_cons_self ..)
    have halike := (alike_iff_of_rowKey hagree hfirst hfirst' hckey).mpr hdkey
    rw [hcd first (List.mem_cons_self ..) first' (List.mem_cons_self ..)] at halike
    contradiction
  refine (List.perm_ext_iff_of_nodup hnodup (Distinct.nodup_eraseDups _)).mpr fun key => ?_
  rw [← keysOf, mem_keysOf, List.mem_filterMap]
  constructor
  · rintro ⟨c, hc, hkey⟩
    exact ⟨_, (class_eq_rowsWithKey hagree hc hkey).2, hkey⟩
  · rintro ⟨row, hrow, hkey⟩
    obtain ⟨c, hc, hmem⟩ := List.mem_flatten.mp (hparts.perm.mem_iff.mpr hrow)
    obtain ⟨first, rest, rfl⟩ := List.exists_cons_of_ne_nil (hparts.ne_nil c hc)
    refine ⟨_, hc, ?_⟩
    have hfirst : first ∈ first :: rest := List.mem_cons_self ..
    rw [hparts.eq_filter _ hc row hmem, List.mem_filter] at hfirst
    exact (alike_iff_of_rowKey hagree hrow hfirst.1 hkey).mp hfirst.2

theorem onePerKey_classes (fields : List String) {patterns : List PatternResult}
    (hpatterns : patterns.Perm ((Order.classes (table.alike [keyColumn]) rows).filterMap
      (classPattern? table fields))) :
    OnePerKey table (table.classValue [keyColumn]) fields rows patterns := by
  have hclass : ∀ p ∈ patterns, ∃ c ∈ Order.classes (table.alike [keyColumn]) rows,
      classPattern? table fields c = some p := fun p hp =>
    List.mem_filterMap.mp (hpatterns.mem_iff.mp hp)
  refine ⟨?_, fun p hp field => ?_, fun p hp => ?_⟩
  · refine (hpatterns.map _).trans ?_
    rw [List.map_filterMap]
    have hkeys : (fun c => (classPattern? table fields c).map PatternResult.key) =
        fun c => rowKey? table (c.headD []) := by
      funext c
      cases h : rowKey? table (c.headD []) <;> simp only [classPattern?, h] <;> rfl
    rw [hkeys]
    exact keys_classes hagree
  · obtain ⟨c, hc, hcp⟩ := hclass p hp
    obtain ⟨key, hkey, rfl⟩ := Option.map_eq_some_iff.mp hcp
    rw [(class_eq_rowsWithKey hagree hc hkey).1]
    exact Sorted.lookup_ofList_map fields _ field
  · obtain ⟨c, hc, hcp⟩ := hclass p hp
    obtain ⟨key, hkey, rfl⟩ := Option.map_eq_some_iff.mp hcp
    rfl

end Agreement

section

variable (query : SuggestQuery) (store : TableStore) (settings : QuerySettings) (table : Table)

theorem patterns_eq {keyIndex : Nat} (htable : store.table? TableStore.patternTable = some table)
    (hvalid : settings.validate query.catalog table query.check = .ok ())
    (hkey : table.columnIndex? keyColumn = some keyIndex) :
    query.patterns store settings false =
      .ok (settings.shownFields query.catalog table [keyColumn],
        rankedPatterns settings table keyIndex
          (settings.shownFields query.catalog table [keyColumn])) := by
  have hstore : store.table TableStore.patternTable = .ok table := by
    rw [TableStore.table, htable]
  simp only [patterns, hstore, hvalid, hkey, bind, Except.bind]
  rfl

/-- Where the key cells of the selected rows agree with their texts, the patterns without the
hierarchy are one for each key, with the sums over the rows that carry it. -/
theorem patterns_onePerKey (htable : store.table? TableStore.patternTable = some table)
    (hvalid : settings.validate query.catalog table query.check = .ok ())
    (hkey : table.hasColumn keyColumn = true)
    (hagree : Cell.KeysAgree (keyCells table (table.select settings.filter))) :
    let fields := settings.shownFields query.catalog table [keyColumn]
    ∃ patterns, query.patterns store settings false = .ok (fields, patterns) ∧
      OnePerKey table (table.classValue [keyColumn]) (fields ++ [settings.target])
        (table.select settings.filter) patterns := by
  intro fields
  obtain ⟨keyIndex, hkeyIndex⟩ := Option.isSome_iff_exists.mp hkey
  exact ⟨_, patterns_eq query store settings table htable hvalid hkeyIndex,
    onePerKey_classes hagree _ (rankedPatterns_perm settings table hkeyIndex fields)⟩

end

/-- An integer and a text as keys, a key that is repeated, and a row without a key. -/
theorem patterns_onePerKey_of_two_kinds :
    let query : SuggestQuery := ⟨.crawl, .strict, 30, 10⟩
    let table : Table := ⟨["query", "pages_nb"],
      [[.int 7, .int 1], [.text "1;2", .int 2], [.null, .int 4], [.int 7, .int 8]]⟩
    Cell.KeysAgree (keyCells table table.rows) ∧ keysOf table table.rows = ["7", "1;2"] ∧
      ∃ patterns, query.patterns [(TableStore.patternTable, table)] .default false =
          .ok (["pages_nb"], patterns) ∧
        OnePerKey table (table.classValue [keyColumn]) ["pages_nb", "pages_nb"] table.rows
          patterns := by
  intro query table
  have hagree : Cell.KeysAgree (keyCells table table.rows) := by decide +kernel
  exact ⟨hagree, by decide, patterns_onePerKey query _ .default table rfl rfl rfl hagree⟩

section Ties

/-- The sum of a column over some rows. -/
def columnSum (table : Table) (rows : List Row) (field : String) : Cell :=
  Cell.sum (rows.map fun row => table.cell row field)

theorem OnePerKey.length_keysOf {value : List Row → String → Cell} {fields fields' : List String}
    {rows : List Row} {patterns : List PatternResult}
    (h : OnePerKey table value fields rows patterns)
    (hpatterns : patterns.Perm ((Order.classes (table.alike [keyColumn]) rows).filterMap
      (classPattern? table fields'))) :
    (keysOf table rows).length =
      ((Order.classes (table.alike [keyColumn]) rows).filterMap
        fun c => rowKey? table (c.headD [])).length := by
  rw [← h.keys.length_eq, List.length_map, hpatterns.length_eq]
  simp only [List.length_filterMap_eq_countP, classPattern?, Option.isSome_map]

theorem classes_pair {alike : Row → Row → Bool} (a b : Row) :
    Order.classes alike [a, b] = if alike a b then [[a, b]] else [[a], [b]] := by
  cases h : alike a b <;> simp [Order.classes, h]

/-- Integers that are one double are merged, a text and an integer of one numeral are split, an
integer behind a truth value is lost, and the key column is not summed. -/
theorem patterns_not_onePerKey :
    let query : SuggestQuery := ⟨.crawl, .strict, 30, 10⟩
    let table (a b : Cell) : Table := ⟨["query", "pages_nb"], [[a, .int 1], [b, .int 1]]⟩
    let settings (fields : List String) : QuerySettings :=
      { QuerySettings.default with fields := some fields }
    let refuted (a b : Cell) (fields : List String) : Prop :=
      ∃ patterns, query.patterns [(TableStore.patternTable, table a b)] (settings fields) false =
          .ok (fields, patterns) ∧
        ¬OnePerKey (table a b) (columnSum (table a b)) (fields ++ ["pages_nb"]) (table a b).rows
          patterns
    refuted (.int 9007199254740992) (.int 9007199254740993) [] ∧ refuted (.text "1") (.int 1) [] ∧
      refuted (.bool true) (.int 1) [] ∧ refuted (.int 1) (.int 1) ["query"] := by
  intro query table settings refuted
  have hpatterns (a b : Cell) (fields : List String) :=
    rankedPatterns_perm (settings fields) (table a b) rfl fields
  refine ⟨⟨_, patterns_eq query _ (settings []) (table _ _) rfl rfl rfl, fun h => ?_⟩,
    ⟨_, patterns_eq query _ (settings []) (table _ _) rfl rfl rfl, fun h => ?_⟩,
    ⟨_, patterns_eq query _ (settings []) (table _ _) rfl rfl rfl, fun h => ?_⟩,
    ⟨_, patterns_eq query _ (settings ["query"]) (table _ _) rfl rfl rfl, fun h => ?_⟩⟩
  · have hlength := h.length_keysOf (hpatterns _ _ [])
    rw [classes_pair, if_pos (by decide +kernel)] at hlength
    exact absurd hlength (by decide)
  · have hlength := h.length_keysOf (hpatterns _ _ [])
    rw [classes_pair, if_neg (by decide +kernel)] at hlength
    exact absurd hlength (by decide)
  · have hlength := h.length_keysOf (hpatterns _ _ [])
    rw [classes_pair, if_pos (by decide +kernel)] at hlength
    exact absurd hlength (by decide)
  · let ones := table (.int 1) (.int 1)
    have hagree : Cell.KeysAgree (keyCells ones ones.rows) := by decide +kernel
    have hshown := onePerKey_classes hagree _ (hpatterns (.int 1) (.int 1) ["query"])
    obtain ⟨p, hp, hkey⟩ := List.mem_map.mp
      (h.keys.mem_iff.mpr (show "1" ∈ keysOf ones ones.rows by decide))
    have hcounter := (h.counters p hp "query").symm.trans (hshown.counters p hp "query")
    have hsum : columnSum ones (rowsWithKey ones ones.rows "1") "query" = .int 2 := by
      decide +kernel
    have hcell : ones.classValue [keyColumn] (rowsWithKey ones ones.rows "1") "query" = .int 1 := by
      decide +kernel
    rw [hkey, if_pos (by decide), if_pos (by decide), hsum, hcell] at hcounter
    have hne : (2 : Int64) ≠ 1 := by decide
    exact hne (Cell.int.inj (Option.some.inj hcounter))

end Ties

end CrawlAudit.SuggestQuery
