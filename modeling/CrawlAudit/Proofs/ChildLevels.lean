import CrawlAudit.Proofs.MovedChildren

/-!
# Levels of children

A child that is moved takes along those of its own children that stand before its parent. So there
is one level of children as long as every pattern stands after the parents of its parents, and a
list with the same patterns in another order may have more.
-/

namespace CrawlAudit.Hierarchy

open PatternResult

variable {hierarchy : Hierarchy} {patterns : List PatternResult}

theorem map_some_hideChildren (hierarchy : Hierarchy) (patterns : List PatternResult) :
    (hierarchy.hideChildren patterns).map some =
      (placesLeft (hierarchy.childPlaces patterns) patterns.length).map fun i =>
        patterns[i]?.map (addChildren
          ((childrenIn (hierarchy.relatedPairs patterns) i).map
            (hierarchy.movedChild patterns i))) := by
  have hlength : ((hierarchy.relatedPairs patterns).foldl moveChild patterns).length =
      patterns.length := by
    simpa using congrArg List.length
      (map_content_foldl_moveChild (hierarchy.relatedPairs patterns) patterns)
  refine (dropPlaces_eq (hierarchy.childPlaces patterns) _).trans ?_
  rw [hlength]
  exact List.map_congr_left fun i _ => getElem?_foldl_moveChild (List.append_nil _).symm i

theorem mem_hideChildren {q : PatternResult} :
    q ∈ hierarchy.hideChildren patterns ↔ ∃ i p, patterns[i]? = some p ∧
      i ∉ hierarchy.childPlaces patterns ∧
      p.addChildren ((childrenIn (hierarchy.relatedPairs patterns) i).map
        (hierarchy.movedChild patterns i)) = q := by
  have hmem : q ∈ hierarchy.hideChildren patterns ↔
      some q ∈ (hierarchy.hideChildren patterns).map some := by simp
  rw [hmem, map_some_hideChildren, List.mem_map]
  simp only [mem_placesLeft, Option.map_eq_some_iff]
  constructor
  · rintro ⟨i, ⟨-, hkept⟩, p, hp, hq⟩
    exact ⟨i, p, hp, hkept, hq⟩
  · rintro ⟨i, p, hp, hkept, hq⟩
    exact ⟨i, ⟨(List.getElem?_eq_some_iff.mp hp).1, hkept⟩, p, hp, hq⟩

/-- Every pattern that stands under another one is a pattern of the list, with none under it. -/
def IsOneLevel (patterns result : List PatternResult) : Prop :=
  ∀ p ∈ result, ∀ c ∈ p.children, c ∈ patterns ∧ c.children = []

section Childless

variable (hchildless : ∀ p ∈ patterns, p.children = [])

include hchildless

theorem children_getD (i : Nat) : (patterns.getD i default).children = [] := by
  rw [List.getD_eq_getElem?_getD]
  cases hp : patterns[i]? with
  | none => rfl
  | some p => exact hchildless p (List.mem_of_getElem? hp)

/-- Under a child that is moved are its own children that stand before its parent. -/
theorem children_movedChild (hierarchy : Hierarchy) (i j : Nat) :
    (hierarchy.movedChild patterns i j).children =
      ((childrenIn (hierarchy.relatedPairs patterns) j).filter (· < i)).map
        (hierarchy.movedChild patterns j) := by
  rw [movedChild_eq]
  change (patterns.getD j default).children ++ _ = _
  rw [children_getD hchildless, List.nil_append]

theorem children_movedChild_eq_nil_iff {i j : Nat}
    (h : (i, j) ∈ hierarchy.relatedPairs patterns) :
    (hierarchy.movedChild patterns i j).children = [] ↔
      ∀ k, (j, k) ∈ hierarchy.relatedPairs patterns → i < k := by
  rw [hierarchy.children_movedChild hchildless, List.map_eq_nil_iff, List.filter_eq_nil_iff]
  simp only [mem_childrenIn, decide_eq_true_eq, Nat.not_lt]
  refine forall₂_congr fun k hk => ?_
  have hne : i ≠ k := by
    rintro rfl
    exact swap_notMem_relatedPairs h hk
  omega

theorem movedChild_mem {i j : Nat} (h : (i, j) ∈ hierarchy.relatedPairs patterns)
    (hnone : (hierarchy.movedChild patterns i j).children = []) :
    hierarchy.movedChild patterns i j ∈ patterns := by
  have hj : j < patterns.length :=
    (lt_length_of_parentAt (hierarchy.mem_relatedPairs.mp h).1).2
  rw [hierarchy.children_movedChild hchildless] at hnone
  rw [movedChild_eq, hnone, addChildren_nil, List.getD_eq_getElem?_getD,
    List.getElem?_eq_getElem hj]
  exact List.getElem_mem hj

end Childless

/-- There is one level of children exactly if every pattern that is a child of a child of a pattern
that is left stands after that pattern. -/
theorem isOneLevel_hideChildren_iff (hierarchy : Hierarchy) (patterns : List PatternResult)
    (hchildless : ∀ p ∈ patterns, p.children = []) :
    IsOneLevel patterns (hierarchy.hideChildren patterns) ↔
      ∀ i < patterns.length, i ∉ hierarchy.childPlaces patterns →
        ∀ j k, (i, j) ∈ hierarchy.relatedPairs patterns →
          (j, k) ∈ hierarchy.relatedPairs patterns → i < k := by
  constructor
  · intro hlevel i hi hkept j k hij
    have hresult := mem_hideChildren.mpr ⟨i, _, List.getElem?_eq_getElem hi, hkept, rfl⟩
    have hchild := List.mem_map_of_mem (f := hierarchy.movedChild patterns i)
      (mem_childrenIn.mpr hij)
    have hnone := (hlevel _ hresult _ (List.mem_append_right _ hchild)).2
    exact (children_movedChild_eq_nil_iff hchildless hij).mp hnone k
  · intro hafter q hq c hc
    obtain ⟨i, p, hp, hkept, rfl⟩ := mem_hideChildren.mp hq
    have hp' := hchildless p (List.mem_of_getElem? hp)
    have hi := (List.getElem?_eq_some_iff.mp hp).1
    rw [addChildren, PatternResult.children, hp', List.nil_append] at hc
    obtain ⟨j, hj, rfl⟩ := List.mem_map.mp hc
    have hij := mem_childrenIn.mp hj
    have hnone := (children_movedChild_eq_nil_iff hchildless hij).mpr fun k =>
      hafter i hi hkept j k hij
    exact ⟨movedChild_mem hchildless hij hnone, hnone⟩

/-- A pattern with two parents, one of them under the other, after both of them. -/
theorem isOneLevel_hideChildren_of_diamond :
    let hierarchy : Hierarchy := [("1", "1;2"), ("1", "1;3"), ("1;2", "1;2;3"), ("1;3", "1;2;3")]
    let pattern (key : String) : PatternResult := .mk key [("pages_nb", .int 5)] []
    let patterns := [pattern "1", pattern "1;3", pattern "1;2", pattern "1;2;3"]
    (∀ p ∈ patterns, p.children = []) ∧
      hierarchy.relatedPairs patterns = [(0, 1), (0, 2), (1, 3), (2, 3)] ∧
      IsOneLevel patterns (hierarchy.hideChildren patterns) := by
  intro hierarchy pattern patterns
  have hchildless : ∀ p ∈ patterns, p.children = [] := by simp [patterns, pattern, children]
  have hpairs : hierarchy.relatedPairs patterns = [(0, 1), (0, 2), (1, 3), (2, 3)] := by decide
  refine ⟨hchildless, hpairs,
    (isOneLevel_hideChildren_iff hierarchy patterns hchildless).mpr fun i _ _ j k hij hjk => ?_⟩
  have hlt : ∀ pair ∈ hierarchy.relatedPairs patterns, pair.1 < pair.2 := by
    rw [hpairs]
    decide
  exact (hlt _ hij).trans (hlt _ hjk)

/-- A chain in which every child stands before its parent has two levels, and the same chain in the
other order has one. -/
theorem not_isOneLevel_hideChildren_of_reversed_chain :
    let hierarchy : Hierarchy := [("A", "B"), ("B", "C")]
    let pattern (key : String) (n : Int64) : PatternResult := .mk key [("pages_nb", .int n)] []
    let patterns := [pattern "C" 100, pattern "B" 200, pattern "A" 300]
    (∀ p ∈ patterns, p.children = []) ∧
      ¬IsOneLevel patterns (hierarchy.hideChildren patterns) ∧
      IsOneLevel patterns.reverse (hierarchy.hideChildren patterns.reverse) := by
  intro hierarchy pattern patterns
  refine ⟨by simp [patterns, pattern, children], fun hlevel => ?_, ?_⟩
  · have hresult : hierarchy.hideChildren patterns =
        [(pattern "A" 300).addChildren [(pattern "B" 200).addChildren [pattern "C" 100]]] := rfl
    rw [hresult] at hlevel
    have hnone := (hlevel _ (List.mem_singleton_self _) _ (List.mem_singleton_self _)).2
    exact List.cons_ne_nil _ _ hnone
  · have hresult : hierarchy.hideChildren patterns.reverse =
        [(pattern "A" 300).addChildren [pattern "B" 200]] := rfl
    rw [hresult]
    intro p hp c hc
    obtain rfl := List.mem_singleton.mp hp
    obtain rfl := List.mem_singleton.mp hc
    exact ⟨List.mem_cons_of_mem _ (List.mem_cons_self ..), rfl⟩

end CrawlAudit.Hierarchy
