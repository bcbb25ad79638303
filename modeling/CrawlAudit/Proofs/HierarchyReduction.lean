import CrawlAudit.Proofs.RelatedPairs
import Mathlib.Data.Fintype.EquivFin
import Mathlib.Logic.Relation

/-!
# Reducing patterns by their hierarchy

Without cycles every pattern that a pass drops is represented: by a descendant that counts as much
when equivalent parents are dropped, by an ancestor when children are moved. Whatever the relation
is, no two patterns that are left are related, so that a second reduction changes nothing.
-/

namespace CrawlAudit.Hierarchy

open Relation

/-- No chain of children leads from a key back to itself. -/
def IsAcyclic (hierarchy : Hierarchy) : Prop :=
  ∀ key, ¬TransGen (fun parent child => (parent, child) ∈ hierarchy) key key

section Representatives

variable {n : Nat} (step : Nat → Nat → Prop)

/-- Following the steps of a relation without cycles one comes to a place that is not left. -/
theorem exists_transGen_of_step (hbound : ∀ i j, step i j → j < n)
    (hcycle : ∀ i, ¬TransGen step i i) {left : Nat → Prop} (hleft : ∀ i, left i → ∃ j, step i j)
    {i : Nat} (hi : i < n) (h : left i) : ∃ j < n, ¬left j ∧ TransGen step i j := by
  -- without cycles the relation is well founded on the finitely many places
  have hwf : WellFounded fun a b : Fin n => TransGen step b a := by
    have htrans : IsTrans (Fin n) fun a b => TransGen step b a :=
      ⟨fun _ _ _ hab hbc => hbc.trans hab⟩
    have hirrefl : Std.Irrefl fun a b : Fin n => TransGen step b a := ⟨fun a => hcycle a⟩
    exact Finite.wellFounded_of_trans_of_irrefl _
  induction hk : (⟨i, hi⟩ : Fin n) using hwf.induction generalizing i with
  | _ k ih =>
      subst hk
      obtain ⟨j, hij⟩ := hleft i h
      have hj := hbound i j hij
      by_cases hjleft : left j
      · obtain ⟨k, hk, hkleft, hjk⟩ := ih ⟨j, hj⟩ (.single hij) hj hjleft rfl
        exact ⟨k, hk, hkleft, .head hij hjk⟩
      · exact ⟨j, hj, hjleft, .single hij⟩

end Representatives

variable {hierarchy : Hierarchy} {patterns : List PatternResult} {target : String}

theorem lt_length_of_parentAt {i j : Nat} (h : hierarchy.ParentAt patterns i j) :
    i < patterns.length ∧ j < patterns.length := by
  obtain ⟨_, _, hp, hq, _⟩ := h
  exact ⟨(List.getElem?_eq_some_iff.mp hp).1, (List.getElem?_eq_some_iff.mp hq).1⟩

theorem not_transGen_parentAt (hacyclic : hierarchy.IsAcyclic) (i : Nat) :
    ¬TransGen (hierarchy.ParentAt patterns) i i := by
  intro h
  refine hacyclic (patterns.getD i default).key (h.lift (fun i => (patterns.getD i default).key) ?_)
  rintro i j ⟨p, q, hp, hq, hpq⟩
  change ((patterns.getD i default).key, (patterns.getD j default).key) ∈ hierarchy
  simpa [List.getD_eq_getElem?_getD, hp, hq, isParent] using hpq

/-- The places of the parents that count as much as one of their children. -/
def equivalentParents (hierarchy : Hierarchy) (patterns : List PatternResult) (target : String) :
    List Nat :=
  ((hierarchy.relatedPairs patterns).filter (isEquivalent patterns target)).map Prod.fst

/-- The places of the patterns that are the child of a pair. -/
def childPlaces (hierarchy : Hierarchy) (patterns : List PatternResult) : List Nat :=
  (hierarchy.relatedPairs patterns).map Prod.snd

/-- The count of the pattern at a place. -/
def countAt? (patterns : List PatternResult) (target : String) (i : Nat) : Option Int64 :=
  patterns[i]?.map fun p => p.count target

theorem removeEquivalentParents_eq :
    hierarchy.removeEquivalentParents patterns target =
      dropPlaces (hierarchy.equivalentParents patterns target) patterns :=
  rfl

theorem exists_step_of_mem_equivalentParents {i : Nat}
    (h : i ∈ hierarchy.equivalentParents patterns target) :
    ∃ j, hierarchy.ParentAt patterns i j ∧
      countAt? patterns target i = countAt? patterns target j := by
  obtain ⟨⟨i, j⟩, hpair, rfl⟩ := List.mem_map.mp h
  obtain ⟨hpair, hcount⟩ := List.mem_filter.mp hpair
  have hparent := (hierarchy.mem_relatedPairs.mp hpair).1
  obtain ⟨p, q, hp, hq, hpq⟩ := hparent
  refine ⟨j, ⟨p, q, hp, hq, hpq⟩, ?_⟩
  simpa [isEquivalent, countAt?, List.getD_eq_getElem?_getD, hp, hq] using hcount

theorem exists_step_of_mem_childPlaces {j : Nat} (h : j ∈ hierarchy.childPlaces patterns) :
    ∃ i, hierarchy.ParentAt patterns i j := by
  obtain ⟨⟨i, j⟩, hpair, rfl⟩ := List.mem_map.mp h
  exact ⟨i, (hierarchy.mem_relatedPairs.mp hpair).1⟩

theorem exists_kept_descendant (hacyclic : hierarchy.IsAcyclic) {i : Nat}
    (hi : i < patterns.length) (h : i ∈ hierarchy.equivalentParents patterns target) :
    ∃ j < patterns.length, j ∉ hierarchy.equivalentParents patterns target ∧
      TransGen (hierarchy.ParentAt patterns) i j ∧
      countAt? patterns target i = countAt? patterns target j := by
  let step (i j : Nat) : Prop :=
    hierarchy.ParentAt patterns i j ∧ countAt? patterns target i = countAt? patterns target j
  have hle : step ≤ hierarchy.ParentAt patterns := fun _ _ h => h.1
  have hmono : ∀ i j, TransGen step i j → TransGen (hierarchy.ParentAt patterns) i j :=
    TransGen.mono hle
  have hcount : ∀ i j, TransGen step i j →
      countAt? patterns target i = countAt? patterns target j := by
    intro i j h
    induction h with
    | single h => exact h.2
    | tail _ h ih => exact ih.trans h.2
  obtain ⟨j, hj, hleft, hij⟩ := exists_transGen_of_step step
    (fun _ _ h => (lt_length_of_parentAt h.1).2)
    (fun i h => not_transGen_parentAt hacyclic i (hmono i i h))
    (fun _ => exists_step_of_mem_equivalentParents) hi h
  exact ⟨j, hj, hleft, hmono i j hij, hcount i j hij⟩

theorem exists_kept_ancestor (hacyclic : hierarchy.IsAcyclic) {i : Nat}
    (hi : i < patterns.length) (h : i ∈ hierarchy.childPlaces patterns) :
    ∃ j < patterns.length, j ∉ hierarchy.childPlaces patterns ∧
      TransGen (hierarchy.ParentAt patterns) j i := by
  obtain ⟨j, hj, hleft, hij⟩ := exists_transGen_of_step
    (Function.swap (hierarchy.ParentAt patterns))
    (fun _ _ h => (lt_length_of_parentAt h).1)
    (fun i h => not_transGen_parentAt hacyclic i (transGen_swap.mp h))
    (fun _ => exists_step_of_mem_childPlaces) hi h
  exact ⟨j, hj, hleft, transGen_swap.mp hij⟩

theorem map_content_hideChildren (hierarchy : Hierarchy) (patterns : List PatternResult) :
    (hierarchy.hideChildren patterns).map (fun q => some q.content) =
      (placesLeft (hierarchy.childPlaces patterns) patterns.length).map fun i =>
        patterns[i]?.map PatternResult.content := by
  have hcontent := map_content_foldl_moveChild (hierarchy.relatedPairs patterns) patterns
  have hlength : ((hierarchy.relatedPairs patterns).foldl moveChild patterns).length =
      patterns.length := by
    simpa using congrArg List.length hcontent
  have hdrop := congrArg (List.map (Option.map PatternResult.content))
    (dropPlaces_eq (hierarchy.childPlaces patterns)
      ((hierarchy.relatedPairs patterns).foldl moveChild patterns))
  rw [List.map_map, List.map_map, hlength] at hdrop
  refine hdrop.trans (List.map_congr_left fun i _ => ?_)
  exact getElem?_eq_of_map_content hcontent i

theorem map_some_removeEquivalentParents (hierarchy : Hierarchy) (patterns : List PatternResult)
    (target : String) :
    (hierarchy.removeEquivalentParents patterns target).map some =
      (placesLeft (hierarchy.equivalentParents patterns target) patterns.length).map fun i =>
        patterns[i]? :=
  dropPlaces_eq _ patterns

theorem ne_nil_of_placesLeft {β : Type} {result : List PatternResult} {view : PatternResult → β}
    {viewAt : Nat → β} {places : List Nat}
    (hresult : result.map view = (placesLeft places patterns.length).map viewAt)
    (hne : patterns ≠ [])
    (hkept : ∀ i < patterns.length, i ∈ places → ∃ j < patterns.length, j ∉ places) :
    result ≠ [] := by
  have hpos : 0 < patterns.length := List.length_pos_iff.mpr hne
  obtain ⟨i, hi, hleft⟩ : ∃ i < patterns.length, i ∉ places := by
    by_cases h0 : 0 ∈ places
    · exact hkept 0 hpos h0
    · exact ⟨0, hpos, h0⟩
  have hplaces : placesLeft places patterns.length ≠ [] :=
    List.ne_nil_of_mem (mem_placesLeft.mpr ⟨hi, hleft⟩)
  rintro rfl
  rw [List.map_nil, eq_comm, List.map_eq_nil_iff] at hresult
  exact hplaces hresult

theorem removeEquivalentParents_ne_nil (hacyclic : hierarchy.IsAcyclic) (target : String)
    (h : patterns ≠ []) : hierarchy.removeEquivalentParents patterns target ≠ [] := by
  refine ne_nil_of_placesLeft (map_some_removeEquivalentParents hierarchy patterns target) h ?_
  intro i hi hmem
  obtain ⟨j, hj, hkept, -⟩ := exists_kept_descendant hacyclic hi hmem
  exact ⟨j, hj, hkept⟩

theorem hideChildren_ne_nil (hacyclic : hierarchy.IsAcyclic) (h : patterns ≠ []) :
    hierarchy.hideChildren patterns ≠ [] := by
  refine ne_nil_of_placesLeft (map_content_hideChildren hierarchy patterns) h ?_
  intro i hi hmem
  obtain ⟨j, hj, hkept, -⟩ := exists_kept_ancestor hacyclic hi hmem
  exact ⟨j, hj, hkept⟩

/-- Without cycles a pattern that is dropped for an equivalent child has a descendant that is kept
and counts as much, one that is moved has an ancestor that is kept, and something is left of every
list that is not empty. -/
theorem reduce_represented (hierarchy : Hierarchy) (hacyclic : hierarchy.IsAcyclic)
    (patterns : List PatternResult) (target : String) :
    (∃ kept : List Nat, kept.Pairwise (· < ·) ∧
      (hierarchy.removeEquivalentParents patterns target).map some =
        kept.map (fun i => patterns[i]?) ∧
      ∀ i < patterns.length, i ∉ kept → ∃ j ∈ kept,
        TransGen (hierarchy.ParentAt patterns) i j ∧
          countAt? patterns target i = countAt? patterns target j) ∧
    (∃ kept : List Nat, kept.Pairwise (· < ·) ∧
      (hierarchy.hideChildren patterns).map (fun q => some q.content) =
        kept.map (fun i => patterns[i]?.map PatternResult.content) ∧
      ∀ i < patterns.length, i ∉ kept → ∃ j ∈ kept,
        TransGen (hierarchy.ParentAt patterns) j i) ∧
    (patterns ≠ [] → hierarchy.reduce patterns target ≠ []) := by
  refine ⟨⟨_, pairwise_placesLeft _ _, map_some_removeEquivalentParents hierarchy patterns target,
      fun i hi hdropped => ?_⟩,
    ⟨_, pairwise_placesLeft _ _, map_content_hideChildren hierarchy patterns,
      fun i hi hdropped => ?_⟩, fun h => ?_⟩
  · have hmem : i ∈ hierarchy.equivalentParents patterns target := by simpa [hi] using hdropped
    obtain ⟨j, hj, hkept, hij, hcount⟩ := exists_kept_descendant hacyclic hi hmem
    exact ⟨j, mem_placesLeft.mpr ⟨hj, hkept⟩, hij, hcount⟩
  · have hmem : i ∈ hierarchy.childPlaces patterns := by simpa [hi] using hdropped
    obtain ⟨j, hj, hkept, hji⟩ := exists_kept_ancestor hacyclic hi hmem
    exact ⟨j, mem_placesLeft.mpr ⟨hj, hkept⟩, hji⟩
  · exact hideChildren_ne_nil hacyclic (removeEquivalentParents_ne_nil hacyclic target h)

theorem isAcyclic_of_lt (rank : String → Nat)
    (h : ∀ e ∈ hierarchy, rank e.1 < rank e.2) : hierarchy.IsAcyclic := by
  have hlt : ∀ a b, TransGen (fun parent child => (parent, child) ∈ hierarchy) a b →
      rank a < rank b := by
    intro a b hab
    induction hab with
    | single hab => exact h _ hab
    | tail _ hbc ih => exact ih.trans (h _ hbc)
  exact fun key hkey => (hlt key key hkey).false

/-- A chain of three patterns that count the same, beside one that is not related. -/
theorem reduce_represented_of_chain :
    let hierarchy : Hierarchy := [("1", "1;2"), ("1;2", "1;2;3")]
    let pattern (key : String) : PatternResult := .mk key [("pages_nb", .int 5)] []
    let patterns := [pattern "1", pattern "1;2", pattern "4", pattern "1;2;3"]
    hierarchy.IsAcyclic ∧
      hierarchy.removeEquivalentParents patterns "pages_nb" = [pattern "4", pattern "1;2;3"] ∧
      (hierarchy.hideChildren patterns).map PatternResult.key = ["1", "4"] ∧
      (∃ kept : List Nat,
        (hierarchy.removeEquivalentParents patterns "pages_nb").map some =
          kept.map (fun i => patterns[i]?) ∧
        ∀ i < 4, i ∉ kept → ∃ j ∈ kept, TransGen (hierarchy.ParentAt patterns) i j) ∧
      hierarchy.reduce patterns "pages_nb" ≠ [] := by
  intro hierarchy pattern patterns
  have hacyclic : hierarchy.IsAcyclic := isAcyclic_of_lt String.length (by decide)
  obtain ⟨⟨kept, -, hkept, hleads⟩, -, hne⟩ :=
    reduce_represented hierarchy hacyclic patterns "pages_nb"
  refine ⟨hacyclic, rfl, by decide, ⟨kept, hkept, fun i hi hleft => ?_⟩, hne (List.cons_ne_nil _ _)⟩
  obtain ⟨j, hj, hij, -⟩ := hleads i hi hleft
  exact ⟨j, hj, hij⟩

/-- Neither of two patterns is the parent of the other. -/
def Unrelated (hierarchy : Hierarchy) (p q : PatternResult) : Prop :=
  hierarchy.isParent p q = false ∧ hierarchy.isParent q p = false

theorem pairwise_unrelated_hideChildren :
    (hierarchy.hideChildren patterns).Pairwise hierarchy.Unrelated := by
  have hcontent := map_content_foldl_moveChild (hierarchy.relatedPairs patterns) patterns
  refine List.pairwise_map.mpr (List.pairwise_filter.mpr ?_)
  rw [List.pairwise_iff_forall_sublist]
  intro a b hab ha hb
  obtain ⟨hlt, hp, hq⟩ := sublist_zipIdx_iff.mp hab
  have hchild : ∀ {i j}, (i, j) ∈ hierarchy.relatedPairs patterns →
      j ∈ hierarchy.childPlaces patterns := fun h => List.mem_map_of_mem h
  have ha' : a.2 ∉ hierarchy.childPlaces patterns := by simpa [childPlaces] using ha
  have hb' : b.2 ∉ hierarchy.childPlaces patterns := by simpa [childPlaces] using hb
  have hforward : ¬hierarchy.ParentAt patterns a.2 b.2 := fun h =>
    hb' (hchild (hierarchy.mem_relatedPairs.mpr ⟨h, Or.inl hlt⟩))
  have hbackward : ¬hierarchy.ParentAt patterns b.2 a.2 := fun h =>
    ha' (hchild (hierarchy.mem_relatedPairs.mpr ⟨h, Or.inr ⟨hlt, hforward⟩⟩))
  refine ⟨?_, ?_⟩
  · exact Bool.eq_false_iff.mpr fun h => hforward (.congr hcontent ⟨a.1, b.1, hp, hq, h⟩)
  · exact Bool.eq_false_iff.mpr fun h => hbackward (.congr hcontent ⟨b.1, a.1, hq, hp, h⟩)

theorem relatedPairs_eq_nil (h : patterns.Pairwise hierarchy.Unrelated) :
    hierarchy.relatedPairs patterns = [] := by
  refine List.eq_nil_iff_forall_not_mem.mpr ?_
  rintro ⟨i, j⟩ hpair
  obtain ⟨⟨p, q, hp, hq, hpq⟩, hplaces⟩ := hierarchy.mem_relatedPairs.mp hpair
  obtain ⟨hi, rfl⟩ := List.getElem?_eq_some_iff.mp hp
  obtain ⟨hj, rfl⟩ := List.getElem?_eq_some_iff.mp hq
  rcases hplaces with hlt | ⟨hlt, -⟩
  · have hfalse := (List.pairwise_iff_getElem.mp h i j hi hj hlt).1
    exact Bool.eq_false_iff.mp hfalse hpq
  · have hfalse := (List.pairwise_iff_getElem.mp h j i hj hi hlt).2
    exact Bool.eq_false_iff.mp hfalse hpq

theorem reduce_eq_self (h : patterns.Pairwise hierarchy.Unrelated) (target : String) :
    hierarchy.reduce patterns target = patterns := by
  have hremove : hierarchy.removeEquivalentParents patterns target = patterns := by
    rw [removeEquivalentParents_eq, equivalentParents, relatedPairs_eq_nil h]
    exact dropPlaces_nil patterns
  have hhide : hierarchy.hideChildren patterns = patterns := by
    rw [hideChildren, relatedPairs_eq_nil h]
    exact dropPlaces_nil patterns
  rw [reduce, hremove, hhide]

/-- No two patterns of a reduced list are related, so reducing it again, by any counter, leaves it
as it is. -/
theorem reduce_reduce (hierarchy : Hierarchy) (patterns : List PatternResult) (target : String) :
    (hierarchy.reduce patterns target).Pairwise hierarchy.Unrelated ∧
      ∀ target', hierarchy.reduce (hierarchy.reduce patterns target) target' =
        hierarchy.reduce patterns target :=
  have hunrelated := pairwise_unrelated_hideChildren
  ⟨hunrelated, fun target' => reduce_eq_self hunrelated target'⟩

end CrawlAudit.Hierarchy
