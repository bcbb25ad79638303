import CrawlAudit.Proofs.HierarchyReduction

/-!
# Moved children

What is under the parents once children have been moved. The related pairs are scanned by the
earlier and then the later of their two places, so that a parent gets its children in list order.
A child that is moved takes along what is under it by then: its own children that stand before its
parent.
-/

namespace CrawlAudit

namespace PatternResult

/-- A pattern with further children after its own. -/
def addChildren (children : List PatternResult) (pattern : PatternResult) : PatternResult :=
  mk pattern.key pattern.counters (pattern.children ++ children)

@[simp] theorem addChildren_nil (pattern : PatternResult) : pattern.addChildren [] = pattern := by
  cases pattern
  simp [addChildren, key, counters, children]

@[simp] theorem content_addChildren (children : List PatternResult) (pattern : PatternResult) :
    (pattern.addChildren children).content = pattern.content :=
  rfl

theorem addChild_addChildren (child : PatternResult) (children : List PatternResult)
    (pattern : PatternResult) :
    addChild child (pattern.addChildren children) = pattern.addChildren (children ++ [child]) := by
  rw [addChildren, addChildren, addChild, List.append_assoc]

end PatternResult

namespace Hierarchy

open PatternResult

/-- The places of the children in the pairs in which a place is the parent, in the order of the
pairs. -/
def childrenIn (pairs : List (Nat × Nat)) (i : Nat) : List Nat :=
  (pairs.filter fun pair => pair.1 == i).map Prod.snd

@[simp] theorem mem_childrenIn {pairs : List (Nat × Nat)} {i j : Nat} :
    j ∈ childrenIn pairs i ↔ (i, j) ∈ pairs := by
  simp [childrenIn]

theorem childrenIn_append (pairs pairs' : List (Nat × Nat)) (i : Nat) :
    childrenIn (pairs ++ pairs') i = childrenIn pairs i ++ childrenIn pairs' i := by
  rw [childrenIn, List.filter_append, List.map_append, childrenIn, childrenIn]

/-- The order in which pairs of places are looked at. -/
def Precedes (p q : Nat × Nat) : Prop :=
  min p.1 p.2 < min q.1 q.2 ∨ min p.1 p.2 = min q.1 q.2 ∧ max p.1 p.2 < max q.1 q.2

variable {hierarchy : Hierarchy} {patterns : List PatternResult}

theorem places_of_related? {a b : PatternResult × Nat} {pair : Nat × Nat} (hlt : a.2 < b.2)
    (h : hierarchy.related? a b = some pair) :
    min pair.1 pair.2 = a.2 ∧ max pair.1 pair.2 = b.2 := by
  have hpair : pair = (a.2, b.2) ∨ pair = (b.2, a.2) := by
    unfold related? at h
    split_ifs at h
    · exact Or.inl (Option.some.inj h).symm
    · exact Or.inr (Option.some.inj h).symm
  rcases hpair with rfl | rfl <;> exact ⟨by omega, by omega⟩

theorem pairwise_precedes_pairsAmong {ps : List (PatternResult × Nat)}
    (h : ps.Pairwise fun a b => a.2 < b.2) : (hierarchy.pairsAmong ps).Pairwise Precedes := by
  induction ps with
  | nil => exact List.Pairwise.nil
  | cons p ps ih =>
      obtain ⟨hp, hps⟩ := List.pairwise_cons.mp h
      refine List.pairwise_append.mpr ⟨?_, ih hps, ?_⟩
      · refine List.pairwise_filterMap.mpr (hps.imp_of_mem ?_)
        intro a b ha hb hab x hx y hy
        have hx := places_of_related? (hp a ha) hx
        have hy := places_of_related? (hp b hb) hy
        exact Or.inr ⟨hx.1.trans hy.1.symm, by omega⟩
      · intro x hx y hy
        obtain ⟨a, ha, hx⟩ := List.mem_filterMap.mp hx
        obtain ⟨b, c, hbc, hy⟩ := hierarchy.mem_pairsAmong.mp hy
        have hx := places_of_related? (hp a ha) hx
        have hy := places_of_related? (List.pairwise_iff_forall_sublist.mp hps hbc) hy
        have hb := hp b (hbc.subset (List.mem_cons_self ..))
        exact Or.inl (by omega)

theorem pairwise_precedes (hierarchy : Hierarchy) (patterns : List PatternResult) :
    (hierarchy.relatedPairs patterns).Pairwise Precedes :=
  pairwise_precedes_pairsAmong (Order.pairwise_zipIdx patterns)

theorem ne_of_mem_relatedPairs {pair : Nat × Nat} (h : pair ∈ hierarchy.relatedPairs patterns) :
    pair.1 ≠ pair.2 := by
  have hplaces := (hierarchy.mem_relatedPairs.mp h).2
  omega

theorem swap_notMem_relatedPairs {i j : Nat} (h : (i, j) ∈ hierarchy.relatedPairs patterns) :
    (j, i) ∉ hierarchy.relatedPairs patterns := by
  intro h'
  obtain ⟨hij, hplaces⟩ := hierarchy.mem_relatedPairs.mp h
  obtain ⟨hji, hplaces'⟩ := hierarchy.mem_relatedPairs.mp h'
  rcases hplaces with hlt | ⟨-, hnot⟩
  · rcases hplaces' with hlt' | ⟨-, hnot'⟩
    · omega
    · exact hnot' hij
  · exact hnot hji

theorem pairwise_childrenIn (hierarchy : Hierarchy) (patterns : List PatternResult) (i : Nat) :
    (childrenIn (hierarchy.relatedPairs patterns) i).Pairwise (· < ·) := by
  refine List.pairwise_map.mpr (List.pairwise_filter.mpr ?_)
  refine (hierarchy.pairwise_precedes patterns).imp_of_mem ?_
  rintro ⟨a, k⟩ ⟨b, l⟩ hk hl hkl ha hb
  have hk := ne_of_mem_relatedPairs hk
  have hl := ne_of_mem_relatedPairs hl
  simp only [Precedes, beq_iff_eq] at *
  omega

/-- The pattern at a place as it is put under the parent at another one. -/
def movedChild (hierarchy : Hierarchy) (patterns : List PatternResult) (i j : Nat) :
    PatternResult :=
  let earlier := (childrenIn (hierarchy.relatedPairs patterns) j).filter (· < i)
  (patterns.getD j default).addChildren
    (earlier.attach.map fun ⟨k, _hk⟩ => movedChild hierarchy patterns j k)
termination_by i + j
decreasing_by
  have hk := (List.mem_filter.mp _hk).2
  simp only [decide_eq_true_eq] at hk
  omega

theorem movedChild_eq (hierarchy : Hierarchy) (patterns : List PatternResult) (i j : Nat) :
    hierarchy.movedChild patterns i j = (patterns.getD j default).addChildren
      (((childrenIn (hierarchy.relatedPairs patterns) j).filter (· < i)).map
        (hierarchy.movedChild patterns j)) := by
  rw [movedChild, List.attach_map_val]

@[simp] theorem content_movedChild (hierarchy : Hierarchy) (patterns : List PatternResult)
    (i j : Nat) :
    (hierarchy.movedChild patterns i j).content = (patterns.getD j default).content := by
  rw [movedChild_eq, content_addChildren]

theorem childrenIn_of_relatedPairs_eq {done rest : List (Nat × Nat)} {i j : Nat}
    (h : hierarchy.relatedPairs patterns = done ++ (i, j) :: rest) :
    (childrenIn (hierarchy.relatedPairs patterns) j).filter (· < i) = childrenIn done j := by
  -- when a pair is looked at, the child has got those of its own that stand before its parent
  have hmem {pair} (hpair : pair ∈ done ++ (i, j) :: rest) :
      pair ∈ hierarchy.relatedPairs patterns := h ▸ hpair
  have hij : (i, j) ∈ hierarchy.relatedPairs patterns := hmem (by simp)
  have hne := ne_of_mem_relatedPairs hij
  have hscan := hierarchy.pairwise_precedes patterns
  rw [h, List.pairwise_append, List.pairwise_cons] at hscan
  obtain ⟨-, ⟨hlater, -⟩, hearlier⟩ := hscan
  have hdone : ∀ k ∈ childrenIn done j, k < i := by
    intro k hk
    have hk := mem_childrenIn.mp hk
    have hkj := ne_of_mem_relatedPairs (hmem (List.mem_append_left _ hk))
    have hki : k ≠ i := by
      rintro rfl
      exact swap_notMem_relatedPairs hij (hmem (List.mem_append_left _ hk))
    have hbefore := hearlier _ hk _ (List.mem_cons_self ..)
    simp only [Precedes] at *
    omega
  have hrest : ∀ k ∈ childrenIn ((i, j) :: rest) j, ¬k < i := by
    intro k hk
    rcases List.mem_cons.mp (mem_childrenIn.mp hk) with hk | hk
    · exact absurd (Prod.mk.inj hk).1.symm hne
    · have hafter := hlater _ hk
      simp only [Precedes] at *
      omega
  rw [h, childrenIn_append, List.filter_append, List.filter_eq_self.mpr (by simpa using hdone),
    List.filter_eq_nil_iff.mpr (by simpa using hrest), List.append_nil]

/-- Once some of the pairs have been looked at, each pattern has got the children of those in
which it is the parent. -/
theorem getElem?_foldl_moveChild {done rest : List (Nat × Nat)}
    (h : hierarchy.relatedPairs patterns = done ++ rest) (p : Nat) :
    (done.foldl moveChild patterns)[p]? = patterns[p]?.map fun pattern =>
      pattern.addChildren ((childrenIn done p).map (hierarchy.movedChild patterns p)) := by
  induction done using List.reverseRecOn generalizing rest p with
  | nil => simp [childrenIn]
  | append_singleton done pair ih =>
      obtain ⟨i, j⟩ := pair
      rw [List.append_assoc, List.singleton_append] at h
      have hij : (i, j) ∈ hierarchy.relatedPairs patterns := by simp [h]
      have hj : j < patterns.length :=
        (lt_length_of_parentAt (hierarchy.mem_relatedPairs.mp hij).1).2
      have hchild : (done.foldl moveChild patterns).getD j default =
          hierarchy.movedChild patterns i j := by
        rw [List.getD_eq_getElem?_getD, ih h, movedChild_eq, childrenIn_of_relatedPairs_eq h,
          List.getD_eq_getElem?_getD, List.getElem?_eq_getElem hj]
        rfl
      rw [List.foldl_append, List.foldl_cons, List.foldl_nil, moveChild, hchild,
        List.getElem?_modify, ih h, childrenIn_append]
      by_cases hi : i = p
      · subst hi
        simp [childrenIn, addChild_addChildren, Function.comp_def]
      · simp [childrenIn, hi]

theorem dropPlaces_map_zipIdx (places : List Nat) (f : PatternResult × Nat → PatternResult) :
    dropPlaces places (patterns.zipIdx.map f) =
      (patterns.zipIdx.filter fun p => !places.contains p.2).map f := by
  have hzip : (patterns.zipIdx.map f).zipIdx = patterns.zipIdx.map fun p => (f p, p.2) := by
    refine List.ext_getElem? fun i => ?_
    simp [List.getElem?_zipIdx, Function.comp_def]
  rw [dropPlaces, hzip, List.filter_map, List.map_map]
  rfl

/-- What is left are the patterns that are the child of no pair, in list order. Each has its key,
its counters and its children as before, and after those a child for every pair in which it is the
parent, in the order of their places in the list. -/
theorem hideChildren_eq (hierarchy : Hierarchy) (patterns : List PatternResult) :
    (hierarchy.hideChildren patterns =
      (patterns.zipIdx.filter fun p => !(hierarchy.childPlaces patterns).contains p.2).map fun p =>
        p.1.addChildren ((childrenIn (hierarchy.relatedPairs patterns) p.2).map
          (hierarchy.movedChild patterns p.2))) ∧
    (∀ i, (childrenIn (hierarchy.relatedPairs patterns) i).Pairwise (· < ·)) ∧
    (∀ i j, (i, j) ∈ hierarchy.relatedPairs patterns ↔
      hierarchy.ParentAt patterns i j ∧
        (i < j ∨ j < i ∧ ¬hierarchy.ParentAt patterns j i)) ∧
    ∀ i j, (hierarchy.movedChild patterns i j).content = (patterns.getD j default).content := by
  refine ⟨?_, hierarchy.pairwise_childrenIn patterns, fun _ _ => hierarchy.mem_relatedPairs,
    hierarchy.content_movedChild patterns⟩
  have hmoved : (hierarchy.relatedPairs patterns).foldl moveChild patterns =
      patterns.zipIdx.map fun p => p.1.addChildren
        ((childrenIn (hierarchy.relatedPairs patterns) p.2).map
          (hierarchy.movedChild patterns p.2)) := by
    refine List.ext_getElem? fun i => ?_
    rw [getElem?_foldl_moveChild (List.append_nil _).symm]
    simp [List.getElem?_zipIdx, Function.comp_def]
  rw [hideChildren, hmoved, dropPlaces_map_zipIdx]
  rfl

/-- Children before and after their parent, the first of them with a child before it. -/
example :
    let pattern (key : String) (children : List PatternResult) : PatternResult :=
      .mk key [("pages_nb", .int 1)] children
    hideChildren [("1", "2"), ("2", "3"), ("1", "4")]
        [pattern "3" [], pattern "2" [], pattern "1" [], pattern "4" []] =
      [pattern "1" [pattern "2" [pattern "3" []], pattern "4" []]] :=
  rfl

end Hierarchy

end CrawlAudit
