import CrawlAudit.Proofs.StableSort
import CrawlAudit.Query.Hierarchy
import Mathlib.Data.List.Basic

/-!
# Related pairs

The pairs that the two passes over a list of patterns look at, by the places of parent and child,
and what is left of a list when the patterns at some places are dropped.
-/

namespace CrawlAudit

namespace PatternResult

@[simp] theorem key_addChild (child pattern : PatternResult) :
    (addChild child pattern).key = pattern.key := by
  cases pattern
  rfl

@[simp] theorem counters_addChild (child pattern : PatternResult) :
    (addChild child pattern).counters = pattern.counters := by
  cases pattern
  rfl

/-- The key and the counters of a pattern. -/
def content (pattern : PatternResult) : String × List (String × Cell) :=
  (pattern.key, pattern.counters)

end PatternResult

namespace Hierarchy

/-- The pattern at one place is a parent of the pattern at another. -/
def ParentAt (hierarchy : Hierarchy) (patterns : List PatternResult) (i j : Nat) : Prop :=
  ∃ p q, patterns[i]? = some p ∧ patterns[j]? = some q ∧ hierarchy.isParent p q = true

/-- The places below a bound that are left when some are dropped. -/
def placesLeft (places : List Nat) (n : Nat) : List Nat :=
  (List.range n).filter fun i => !places.contains i

theorem getElem?_eq_of_map_content {patterns patterns' : List PatternResult}
    (h : patterns.map PatternResult.content = patterns'.map PatternResult.content) (i : Nat) :
    patterns[i]?.map PatternResult.content = patterns'[i]?.map PatternResult.content := by
  rw [← List.getElem?_map, h, List.getElem?_map]

theorem isParent_congr (hierarchy : Hierarchy) {p p' q q' : PatternResult}
    (hp : p'.content = p.content) (hq : q'.content = q.content) :
    hierarchy.isParent p' q' = hierarchy.isParent p q := by
  have hkey : p'.key = p.key := congrArg Prod.fst hp
  have hkey' : q'.key = q.key := congrArg Prod.fst hq
  rw [isParent, isParent, hkey, hkey']

theorem ParentAt.congr {hierarchy : Hierarchy} {patterns patterns' : List PatternResult}
    (h : patterns.map PatternResult.content = patterns'.map PatternResult.content) {i j : Nat}
    (hij : hierarchy.ParentAt patterns i j) : hierarchy.ParentAt patterns' i j := by
  obtain ⟨p, q, hp, hq, hpq⟩ := hij
  have hi := getElem?_eq_of_map_content h i
  have hj := getElem?_eq_of_map_content h j
  rw [hp, Option.map_some, eq_comm, Option.map_eq_some_iff] at hi
  rw [hq, Option.map_some, eq_comm, Option.map_eq_some_iff] at hj
  obtain ⟨p', hp', hpp'⟩ := hi
  obtain ⟨q', hq', hqq'⟩ := hj
  exact ⟨p', q', hp', hq', (hierarchy.isParent_congr hpp' hqq').trans hpq⟩

theorem sublist_zipIdx_iff {patterns : List PatternResult} {a b : PatternResult × Nat} :
    [a, b].Sublist patterns.zipIdx ↔
      a.2 < b.2 ∧ patterns[a.2]? = some a.1 ∧ patterns[b.2]? = some b.1 := by
  constructor
  · intro h
    have ha := h.subset (List.mem_cons_self ..)
    have hb := h.subset (List.mem_cons_of_mem _ (List.mem_cons_self ..))
    exact ⟨List.pairwise_iff_forall_sublist.mp (Order.pairwise_zipIdx patterns) h,
      List.mem_zipIdx_iff_getElem?.mp ha, List.mem_zipIdx_iff_getElem?.mp hb⟩
  · rintro ⟨hlt, ha, hb⟩
    obtain ⟨hi, ha⟩ := List.getElem?_eq_some_iff.mp ha
    obtain ⟨hj, hb⟩ := List.getElem?_eq_some_iff.mp hb
    have hi' : a.2 < patterns.zipIdx.length := by rwa [List.length_zipIdx]
    have hj' : b.2 < patterns.zipIdx.length := by rwa [List.length_zipIdx]
    let places : List (Fin patterns.zipIdx.length) := [⟨a.2, hi'⟩, ⟨b.2, hj'⟩]
    have hplaces : places.Pairwise (· < ·) := by simpa [places] using hlt
    simpa [places, ha, hb] using List.map_getElem_sublist hplaces

variable (hierarchy : Hierarchy)

theorem mem_pairsAmong {patterns : List (PatternResult × Nat)} {pair : Nat × Nat} :
    pair ∈ hierarchy.pairsAmong patterns ↔
      ∃ a b, [a, b].Sublist patterns ∧ hierarchy.related? a b = some pair := by
  induction patterns with
  | nil => simp [pairsAmong]
  | cons p ps ih =>
      rw [pairsAmong, List.mem_append, List.mem_filterMap, ih]
      constructor
      · rintro (⟨b, hb, hpair⟩ | ⟨a, b, hab, hpair⟩)
        · exact ⟨p, b, (List.singleton_sublist.mpr hb).cons_cons p, hpair⟩
        · exact ⟨a, b, hab.cons p, hpair⟩
      · rintro ⟨a, b, hab, hpair⟩
        cases hab with
        | cons _ hab => exact Or.inr ⟨a, b, hab, hpair⟩
        | cons_cons _ hb => exact Or.inl ⟨b, List.singleton_sublist.mp hb, hpair⟩

/-- A pair of places is related when the first is a parent of the second; of two that are parents
of each other the earlier one counts as the parent. -/
theorem mem_relatedPairs {patterns : List PatternResult} {i j : Nat} :
    (i, j) ∈ hierarchy.relatedPairs patterns ↔
      hierarchy.ParentAt patterns i j ∧
        (i < j ∨ j < i ∧ ¬hierarchy.ParentAt patterns j i) := by
  simp only [relatedPairs, mem_pairsAmong, sublist_zipIdx_iff, related?]
  constructor
  · rintro ⟨⟨p, m⟩, ⟨q, n⟩, ⟨hlt, hp, hq⟩, hpair⟩
    split at hpair
    · rename_i hpq
      obtain ⟨rfl, rfl⟩ := Prod.mk.inj (Option.some.inj hpair)
      exact ⟨⟨p, q, hp, hq, hpq⟩, Or.inl hlt⟩
    · rename_i hpq
      split at hpair
      · rename_i hqp
        obtain ⟨rfl, rfl⟩ := Prod.mk.inj (Option.some.inj hpair)
        refine ⟨⟨q, p, hq, hp, hqp⟩, Or.inr ⟨hlt, ?_⟩⟩
        rintro ⟨p', q', hp', hq', hpq'⟩
        rw [hp, Option.some_inj] at hp'
        rw [hq, Option.some_inj] at hq'
        exact hpq (hp' ▸ hq' ▸ hpq')
      · contradiction
  · rintro ⟨⟨p, q, hp, hq, hpq⟩, hlt | ⟨hlt, hqp⟩⟩
    · exact ⟨(p, i), (q, j), ⟨hlt, hp, hq⟩, if_pos hpq⟩
    · refine ⟨(q, j), (p, i), ⟨hlt, hq, hp⟩, ?_⟩
      rw [if_neg fun h => hqp ⟨q, p, hq, hp, h⟩, if_pos hpq]

@[simp] theorem mem_placesLeft {places : List Nat} {n i : Nat} :
    i ∈ placesLeft places n ↔ i < n ∧ i ∉ places := by
  simp [placesLeft]

theorem pairwise_placesLeft (places : List Nat) (n : Nat) :
    (placesLeft places n).Pairwise (· < ·) :=
  List.pairwise_lt_range.filter _

theorem dropPlaces_nil (patterns : List PatternResult) : dropPlaces [] patterns = patterns := by
  simp [dropPlaces, List.zipIdx_map_fst]

theorem dropPlaces_eq (places : List Nat) (patterns : List PatternResult) :
    (dropPlaces places patterns).map some =
      (placesLeft places patterns.length).map fun i => patterns[i]? := by
  have hrange : List.range patterns.length = patterns.zipIdx.map Prod.snd := by
    rw [List.zipIdx_map_snd, List.range_eq_range']
  rw [dropPlaces, placesLeft, hrange, List.filter_map, List.map_map, List.map_map]
  refine List.map_congr_left fun p hp => ?_
  exact (List.mem_zipIdx_iff_getElem?.mp (List.mem_filter.mp hp).1).symm

theorem map_content_moveChild (patterns : List PatternResult) (pair : Nat × Nat) :
    (moveChild patterns pair).map PatternResult.content = patterns.map PatternResult.content := by
  refine List.ext_getElem? fun i => ?_
  rw [List.getElem?_map, List.getElem?_map, moveChild, List.getElem?_modify]
  cases patterns[i]? with
  | none => rfl
  | some p =>
      by_cases hi : pair.1 = i <;> simp [hi, PatternResult.content]

theorem map_content_foldl_moveChild (pairs : List (Nat × Nat)) (patterns : List PatternResult) :
    (pairs.foldl moveChild patterns).map PatternResult.content =
      patterns.map PatternResult.content := by
  induction pairs generalizing patterns with
  | nil => rfl
  | cons pair pairs ih => rw [List.foldl_cons, ih, map_content_moveChild]

end Hierarchy

end CrawlAudit
