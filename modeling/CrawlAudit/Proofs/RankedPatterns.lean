import CrawlAudit.Proofs.ChildLevels
import CrawlAudit.Proofs.PatternKeys
import CrawlAudit.Proofs.ShownCounts
import Mathlib.Data.List.GetD

/-!
# Ranked patterns

Patterns are ranked by a counter, the greatest first. Dropping parents leaves the others in their
order, and children are put under their parents in the order of the list, so that a ranked list
stays ranked at every level of children.
-/

namespace CrawlAudit

open Std

namespace PatternResult

/-- No pattern is shown with a smaller count than a later one. -/
def IsRanked (target : String) (patterns : List PatternResult) : Prop :=
  patterns.Pairwise fun p q => q.count target ≤ p.count target

/-- The children of a pattern are ranked, and so are those of its children. -/
inductive HasRankedChildren (target : String) : PatternResult → Prop where
  | intro {pattern : PatternResult} (ranked : IsRanked target pattern.children)
      (deep : ∀ c ∈ pattern.children, HasRankedChildren target c) :
      HasRankedChildren target pattern

theorem HasRankedChildren.of_childless {target : String} {pattern : PatternResult}
    (h : pattern.children = []) : HasRankedChildren target pattern := by
  refine ⟨?_, ?_⟩
  · rw [h]
    exact List.Pairwise.nil
  · rw [h]
    exact List.forall_mem_nil _

theorem count_congr {p q : PatternResult} (h : p.content = q.content) (target : String) :
    p.count target = q.count target := by
  have hcounters : p.counters = q.counters := congrArg Prod.snd h
  rw [count, count, counter?, counter?, hcounters]

end PatternResult

namespace Hierarchy

open PatternResult

variable {hierarchy : Hierarchy} {patterns : List PatternResult} {target : String}

theorem dropPlaces_sublist (places : List Nat) (patterns : List PatternResult) :
    (dropPlaces places patterns).Sublist patterns := by
  have hsub := (List.filter_sublist (p := fun p => !places.contains p.2)
    (l := patterns.zipIdx)).map Prod.fst
  rwa [List.zipIdx_map_fst] at hsub

section Ranked

variable (hranked : IsRanked target patterns)

include hranked

theorem isRanked_removeEquivalentParents (hierarchy : Hierarchy) :
    IsRanked target (hierarchy.removeEquivalentParents patterns target) :=
  hranked.sublist (dropPlaces_sublist _ patterns)

theorem count_getD_le {i j : Nat} (hij : i < j) (hj : j < patterns.length) :
    (patterns.getD j default).count target ≤ (patterns.getD i default).count target := by
  have hi : i < patterns.length := hij.trans hj
  rw [List.getD_eq_getElem _ _ hi, List.getD_eq_getElem _ _ hj]
  exact List.pairwise_iff_getElem.mp hranked i j hi hj hij

theorem isRanked_movedChildren (i : Nat) :
    IsRanked target ((childrenIn (hierarchy.relatedPairs patterns) i).map
      (hierarchy.movedChild patterns i)) := by
  refine List.pairwise_map.mpr ((hierarchy.pairwise_childrenIn patterns i).imp_of_mem ?_)
  intro j k hj hk hjk
  have hlt : k < patterns.length :=
    (lt_length_of_parentAt (hierarchy.mem_relatedPairs.mp (mem_childrenIn.mp hk)).1).2
  rw [count_congr (hierarchy.content_movedChild patterns i j),
    count_congr (hierarchy.content_movedChild patterns i k)]
  exact count_getD_le hranked hjk hlt

theorem isRanked_hideChildren : IsRanked target (hierarchy.hideChildren patterns) := by
  let ordered (a b : Option PatternResult) : Prop :=
    ∀ p ∈ a, ∀ q ∈ b, q.count target ≤ p.count target
  have hplaces : ((hierarchy.hideChildren patterns).map some).Pairwise ordered := by
    rw [map_some_hideChildren, List.pairwise_map]
    refine (pairwise_placesLeft _ _).imp ?_
    intro i j hij p hp q hq
    obtain ⟨p, hpi, rfl⟩ := Option.map_eq_some_iff.mp hp
    obtain ⟨q, hqj, rfl⟩ := Option.map_eq_some_iff.mp hq
    have hle := count_getD_le hranked hij (List.getElem?_eq_some_iff.mp hqj).1
    rw [List.getD_eq_getElem?_getD, List.getD_eq_getElem?_getD, hpi, hqj] at hle
    rw [count_congr (content_addChildren _ p), count_congr (content_addChildren _ q)]
    exact hle
  refine (List.pairwise_map.mp hplaces).imp ?_
  intro p q hpq
  exact hpq p rfl q rfl

variable (hchildless : ∀ p ∈ patterns, p.children = [])

include hchildless

theorem hasRankedChildren_movedChild (i j : Nat) :
    HasRankedChildren target (hierarchy.movedChild patterns i j) := by
  -- a child of `j` that is taken along stands before `i`, so the sum of the places gets smaller
  induction hplaces : i + j using Nat.strongRecOn generalizing i j with
  | _ n ih =>
      have hchildren := hierarchy.children_movedChild hchildless i j
      refine ⟨?_, ?_⟩
      · rw [hchildren]
        exact (isRanked_movedChildren hranked j).sublist (List.filter_sublist.map _)
      · rw [hchildren]
        refine List.forall_mem_map.mpr fun k hk => ?_
        have hlt : k < i := by simpa using (List.mem_filter.mp hk).2
        exact ih (j + k) (by omega) j k rfl

theorem hasRankedChildren_hideChildren :
    ∀ p ∈ hierarchy.hideChildren patterns, HasRankedChildren target p := by
  intro q hq
  obtain ⟨i, p, hp, -, rfl⟩ := mem_hideChildren.mp hq
  have hchildren : (p.addChildren ((childrenIn (hierarchy.relatedPairs patterns) i).map
      (hierarchy.movedChild patterns i))).children =
        (childrenIn (hierarchy.relatedPairs patterns) i).map (hierarchy.movedChild patterns i) := by
    change p.children ++ _ = _
    rw [hchildless p (List.mem_of_getElem? hp), List.nil_append]
  refine ⟨?_, ?_⟩
  · rw [hchildren]
    exact isRanked_movedChildren hranked i
  · rw [hchildren]
    exact List.forall_mem_map.mpr fun j _ =>
      hasRankedChildren_movedChild hranked hchildless i j

/-- A ranked list is reduced to a ranked list in which all children are ranked. -/
theorem isRanked_reduce :
    IsRanked target (hierarchy.reduce patterns target) ∧
      ∀ p ∈ hierarchy.reduce patterns target, HasRankedChildren target p := by
  have hremaining := hierarchy.isRanked_removeEquivalentParents hranked
  have hsub := dropPlaces_sublist (hierarchy.equivalentParents patterns target) patterns
  exact ⟨isRanked_hideChildren hremaining,
    hasRankedChildren_hideChildren hremaining fun p hp => hchildless p (hsub.subset hp)⟩

end Ranked

end Hierarchy

namespace SuggestQuery

open PatternResult

variable {settings : QuerySettings} {table : Table}

theorem count_pattern? {fields : List String} {target : String} {group : Group}
    {pattern : PatternResult} (h : pattern? fields target group = some pattern) :
    pattern.count target = FieldCatalog.shownNumber (some (group.get target)) := by
  obtain ⟨key, -, rfl⟩ := Option.map_eq_some_iff.mp h
  refine congrArg FieldCatalog.shownNumber ?_
  exact (Sorted.lookup_ofList_map (fields ++ [target]) group.get target).trans
    (if_pos (List.mem_append_right _ (List.mem_singleton_self target)))

theorem children_pattern? {fields : List String} {target : String} {group : Group}
    {pattern : PatternResult} (h : pattern? fields target group = some pattern) :
    pattern.children = [] := by
  obtain ⟨key, -, rfl⟩ := Option.map_eq_some_iff.mp h
  rfl

/-- The sums of the target over the rows of each key are counts. -/
def CountsTarget (settings : QuerySettings) (table : Table) : Prop :=
  ∀ rows ∈ Order.classes (table.alike [keyColumn]) (table.select settings.filter),
    (rowKey? table (rows.headD [])).isSome → (columnSum table rows settings.target).IsCount

instance : Decidable (CountsTarget settings table) :=
  inferInstanceAs (Decidable (∀ rows ∈ _, _ → _))

theorem isCount_of_mem_groups (htarget : settings.target ≠ keyColumn)
    (hcounts : CountsTarget settings table) {group : Group}
    (hgroup : group ∈ table.groups (table.select settings.filter) [table.columnIndex? keyColumn])
    {fields : List String} {pattern : PatternResult}
    (h : pattern? fields settings.target group = some pattern) :
    (group.get settings.target).IsCount := by
  obtain ⟨runs, hgroups, hperm, -⟩ :=
    table.exists_kept_runs [keyColumn] (fun _ => true) (table.select settings.filter)
  rw [List.filter_true, List.map_singleton] at hgroups
  rw [hgroups] at hgroup
  obtain ⟨rows, hrows, rfl⟩ := List.mem_map.mp hgroup
  have hclass := (List.mem_filter.mp (hperm.mem_iff.mp hrows)).1
  have hkey : (rowKey? table (rows.headD [])).isSome := by
    rw [pattern?_classGroup] at h
    exact (Option.isSome_map ..).symm.trans (Option.isSome_of_eq_some h)
  rw [Table.get_classGroup, Table.classValue, if_neg (by simpa using htarget)]
  exact hcounts rows hclass hkey

theorem isRanked_rankedPatterns (htarget : settings.target ≠ keyColumn)
    (hcounts : CountsTarget settings table) {keyIndex : Nat}
    (hkey : table.columnIndex? keyColumn = some keyIndex) (fields : List String) :
    IsRanked settings.target (rankedPatterns settings table keyIndex fields) := by
  have hascending : TransCmp fun a b : Group =>
      (a.get settings.target).totalCompare (b.get settings.target) :=
    Order.transCmp_on Cell.totalCompare fun group : Group => group.get settings.target
  have hdescending : TransCmp fun a b : Group =>
      (b.get settings.target).totalCompare (a.get settings.target) := TransCmp.opposite
  rw [rankedPatterns, ← hkey]
  refine List.pairwise_filterMap.mpr ((Order.pairwise_sort _ _).imp_of_mem ?_)
  intro a b ha hb hab p hp q hq
  have hacount := isCount_of_mem_groups htarget hcounts (Order.mem_sort.mp ha) hp
  have hbcount := isCount_of_mem_groups htarget hcounts (Order.mem_sort.mp hb) hq
  rw [count_pattern? hp, count_pattern? hq]
  exact Cell.shownNumber_mono hbcount hacount hab

theorem children_of_mem_rankedPatterns {keyIndex : Nat} {fields : List String} :
    ∀ p ∈ rankedPatterns settings table keyIndex fields, p.children = [] := by
  intro p hp
  obtain ⟨group, -, hgroup⟩ := List.mem_filterMap.mp hp
  exact children_pattern? hgroup

theorem isRanked_reduced (store : TableStore) {target : String} {patterns : List PatternResult}
    (hranked : IsRanked target patterns) (hchildless : ∀ p ∈ patterns, p.children = []) :
    IsRanked target (reduced store target patterns) ∧
      ∀ p ∈ reduced store target patterns, HasRankedChildren target p := by
  rw [reduced]
  cases Hierarchy.ofStore? store with
  | none => exact ⟨hranked, fun p hp => .of_childless (hchildless p hp)⟩
  | some hierarchy => exact Hierarchy.isRanked_reduce hranked hchildless

variable (query : SuggestQuery) (store : TableStore) (settings : QuerySettings) (table : Table)

/-- A query gives patterns when its fields are allowed and the table has a column of keys; the
hierarchy only comes in after that. -/
theorem patterns_eq_ok_iff (relevance : Bool)
    (htable : store.table? TableStore.patternTable = some table)
    {shown : List String × List PatternResult} :
    query.patterns store settings relevance = .ok shown ↔
      settings.validate query.catalog table query.check = .ok () ∧
        ∃ keyIndex, table.columnIndex? keyColumn = some keyIndex ∧
          let fields := settings.shownFields query.catalog table [keyColumn]
          let ranked := rankedPatterns settings table keyIndex fields
          (fields, if relevance then reduced store settings.target ranked else ranked) = shown := by
  have hstore : store.table TableStore.patternTable = .ok table := by
    rw [TableStore.table, htable]
  simp only [SuggestQuery.patterns, hstore, Fault.bind_eq_ok, Except.ok.injEq, exists_eq_left']
  refine Unique.exists_iff.trans (and_congr_right fun _ => ?_)
  cases table.columnIndex? keyColumn with
  | none => simp
  | some keyIndex =>
      simp only [Option.some.injEq, exists_eq_left']
      exact ⟨Except.ok.inj, congrArg Except.ok⟩

/-- Where the sums of the target are counts, patterns are given whenever the fields are allowed and
the table has a column of keys, and they are ranked by the target as it is shown, at every level of
children. -/
theorem patterns_isRanked (relevance : Bool)
    (htable : store.table? TableStore.patternTable = some table)
    (htarget : settings.target ≠ keyColumn) (hcounts : CountsTarget settings table) :
    ((∃ shown, query.patterns store settings relevance = .ok shown) ↔
      settings.validate query.catalog table query.check = .ok () ∧
        table.hasColumn keyColumn = true) ∧
    ∀ fields patterns, query.patterns store settings relevance = .ok (fields, patterns) →
      IsRanked settings.target patterns ∧
        ∀ p ∈ patterns, HasRankedChildren settings.target p := by
  constructor
  · simp only [patterns_eq_ok_iff query store settings table relevance htable, exists_and_left,
      Table.hasColumn, Option.isSome_iff_exists]
    refine and_congr_right fun _ => ⟨?_, ?_⟩
    · rintro ⟨_, keyIndex, hkey, -⟩
      exact ⟨keyIndex, hkey⟩
    · rintro ⟨keyIndex, hkey⟩
      exact ⟨_, keyIndex, hkey, rfl⟩
  · intro fields patterns hpatterns
    obtain ⟨-, keyIndex, hkey, hshown⟩ :=
      (patterns_eq_ok_iff query store settings table relevance htable).mp hpatterns
    obtain ⟨rfl, rfl⟩ := Prod.mk.inj hshown
    have hranked := isRanked_rankedPatterns htarget hcounts hkey
      (settings.shownFields query.catalog table [keyColumn])
    cases relevance with
    | true => exact isRanked_reduced store hranked children_of_mem_rankedPatterns
    | false =>
        exact ⟨hranked, fun p hp => .of_childless (children_of_mem_rankedPatterns p hp)⟩

/-- An integer, a double, a sum of both, nothing to sum, and a row without a key that has a negative
cell, with a child that counts more than its parent. -/
theorem patterns_isRanked_of_mixed_sums :
    let query : SuggestQuery := ⟨.crawl, .strict, 30, 10⟩
    let half : Cell := .float ⟨0x3FE0000000000000⟩
    let table : Table := ⟨["query", "pages_nb"],
      [[.text "1", .int 2], [.text "1;2", half], [.text "1;2", .int 3], [.text "1;3", .null],
        [.null, .int (-1)], [.text "4", half]]⟩
    let relations : Table :=
      ⟨["parent", "child"], [[.text "1", .text "1;3"], [.text "1", .text "1;2"]]⟩
    let store : TableStore :=
      [(TableStore.patternTable, table), (TableStore.relationTable, relations)]
    CountsTarget .default table ∧ ∃ fields patterns,
      query.patterns store .default true = .ok (fields, patterns) ∧
        IsRanked "pages_nb" patterns ∧ ∀ p ∈ patterns, HasRankedChildren "pages_nb" p := by
  intro query half table relations store
  have hcounts : CountsTarget .default table := by decide +kernel
  obtain ⟨hsome, hranked⟩ :=
    patterns_isRanked query store .default table true rfl (by decide) hcounts
  obtain ⟨⟨fields, patterns⟩, hpatterns⟩ := hsome.mpr ⟨rfl, rfl⟩
  exact ⟨hcounts, fields, patterns, hpatterns, hranked fields patterns hpatterns⟩

end SuggestQuery

end CrawlAudit
