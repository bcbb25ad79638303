import CrawlAudit.Proofs.OrderLaws
import Mathlib.Data.List.Sort

/-!
# Stable sorting

A sorted list is ascending, holds the elements that were sorted, and leaves elements that compare
equal in the order in which they stood.
-/

namespace CrawlAudit.Order

open Std

variable {α : Type} {order : α → α → Ordering}

theorem bne_gt_iff_isLE (o : Ordering) : (o != .gt) = true ↔ o.isLE = true := by
  cases o <;> decide

theorem perm_sort (order : α → α → Ordering) (xs : List α) : (sort order xs).Perm xs :=
  List.mergeSort_perm xs _

@[simp] theorem mem_sort {xs : List α} {a : α} : a ∈ sort order xs ↔ a ∈ xs :=
  (perm_sort order xs).mem_iff

theorem sort_map {β : Type} (order : β → β → Ordering) (f : α → β) (xs : List α) :
    sort order (xs.map f) = (sort (fun a b => order (f a) (f b)) xs).map f := by
  refine (List.map_mergeSort fun a _ b _ => ?_).symm
  rfl

section

variable [TransCmp order]

theorem sort_trans (a b c : α) (hab : (order a b != .gt) = true)
    (hbc : (order b c != .gt) = true) : (order a c != .gt) = true := by
  rw [bne_gt_iff_isLE] at *
  exact TransCmp.isLE_trans hab hbc

theorem sort_total (a b : α) : (order a b != .gt || order b a != .gt) = true := by
  rw [(OrientedCmp.eq_swap : order b a = (order a b).swap)]
  cases order a b <;> rfl

theorem pairwise_sort (order : α → α → Ordering) [TransCmp order] (xs : List α) :
    (sort order xs).Pairwise fun a b => (order a b).isLE := by
  have h : (sort order xs).Pairwise fun a b => (order a b != .gt) = true :=
    List.pairwise_mergeSort sort_trans sort_total xs
  exact h.imp fun hab => (bne_gt_iff_isLE _).mp hab

theorem sublist_sort {xs ys : List α} (hys : ys.Pairwise fun a b => (order a b).isLE)
    (h : ys.Sublist xs) : ys.Sublist (sort order xs) :=
  List.sublist_mergeSort sort_trans sort_total
    (hys.imp fun hab => (bne_gt_iff_isLE _).mpr hab) h

theorem filter_sort {xs : List α} {p : α → Bool}
    (hp : (xs.filter p).Pairwise fun a b => (order a b).isLE) :
    (sort order xs).filter p = xs.filter p := by
  have hsub : (xs.filter p).Sublist ((sort order xs).filter p) := by
    have h := (sublist_sort hp List.filter_sublist).filter p
    rwa [List.filter_filter, funext fun a => Bool.and_self (p a)] at h
  exact (hsub.eq_of_length ((perm_sort order xs).filter p).length_eq.symm).symm

theorem filter_tied_sort (xs : List α) (a : α) :
    (sort order xs).filter (tied order a) = xs.filter (tied order a) := by
  refine filter_sort (List.pairwise_of_forall_mem_list fun b hb c hc => ?_)
  have hab : order a b = .eq := by simpa [tied] using (List.mem_filter.mp hb).2
  have hac : order a c = .eq := by simpa [tied] using (List.mem_filter.mp hc).2
  rw [← TransCmp.congr_left hab, hac]
  rfl

theorem pairwise_sort_of_pairwise {R : α → α → Prop} {xs : List α} (h : xs.Pairwise R) :
    (sort order xs).Pairwise fun a b => order a b = .lt ∨ order a b = .eq ∧ R a b := by
  rw [List.pairwise_iff_forall_sublist]
  intro a b hab
  have hle := List.pairwise_iff_forall_sublist.mp (pairwise_sort order xs) hab
  cases ho : order a b with
  | lt => exact Or.inl rfl
  | gt => simp [ho] at hle
  | eq =>
      have hpair := hab.filter (tied order a)
      rw [filter_tied_sort] at hpair
      have hkept : [a, b].filter (tied order a) = [a, b] := by
        simp [tied, ho, (ReflCmp.compare_self : order a a = .eq)]
      rw [hkept] at hpair
      exact Or.inr ⟨rfl,
        List.pairwise_iff_forall_sublist.mp h (hpair.trans List.filter_sublist)⟩

theorem pairwise_lt_sort [LawfulEqCmp order] {xs : List α} (h : xs.Nodup) :
    (sort order xs).Pairwise fun a b => order a b = .lt :=
  (pairwise_sort_of_pairwise h).imp fun hab =>
    hab.resolve_right fun heq => heq.2 (LawfulEqCmp.eq_of_compare heq.1)

theorem sort_eq_of_pairwise {xs ys : List α} (hys : ys.Pairwise fun a b => order a b = .lt)
    (h : ys.Perm xs) : sort order xs = ys := by
  have hle : ys.Pairwise fun a b => (order a b).isLE := hys.imp fun hab => by simp [hab]
  have heq : ∀ a ∈ ys, ∀ b ∈ ys, order a b = .eq → a = b := by
    refine List.Pairwise.forall_of_forall_of_flip (fun a _ _ => rfl) ?_ ?_
    · exact hys.imp fun hab hba => by simp [hab] at hba
    · exact hys.imp fun hab hba => by simp [OrientedCmp.gt_of_lt hab] at hba
  refine ((perm_sort order xs).trans h.symm).eq_of_pairwise ?_ (pairwise_sort order xs) hle
  intro a b ha hb hab hba
  exact heq a (h.mem_iff.mpr (mem_sort.mp ha)) b hb (OrientedCmp.isLE_antisymm hab hba)

theorem orderedInsert_append {le : α → α → Prop} [DecidableRel le] {a : α} {front back : List α}
    (hfront : ∀ b ∈ front, ¬le a b) (hback : ∀ b ∈ back, le a b) :
    (front ++ back).orderedInsert le a = front ++ a :: back := by
  induction front with
  | nil =>
      cases back with
      | nil => rfl
      | cons b back => exact List.orderedInsert_cons_of_le le back (hback b (List.mem_cons_self ..))
  | cons b front ih =>
      obtain ⟨hb, hfront⟩ := List.forall_mem_cons.mp hfront
      rw [List.cons_append, List.orderedInsert_of_not_le le _ hb, ih hfront]
      rfl

/-- A sort that can be computed in proofs, where merging cannot be unfolded. -/
theorem sort_eq_insertionSort (xs : List α) :
    sort order xs = xs.insertionSort fun a b => (order a b).isLE := by
  induction xs with
  | nil => exact List.mergeSort_nil
  | cons a xs ih =>
      obtain ⟨front, back, hcons, hsort, hfront⟩ : ∃ front back,
          sort order (a :: xs) = front ++ a :: back ∧ sort order xs = front ++ back ∧
            ∀ b ∈ front, (!(order a b != .gt)) = true :=
        List.mergeSort_cons sort_trans sort_total a xs
      have hascending := pairwise_sort order (a :: xs)
      rw [hcons, List.pairwise_append, List.pairwise_cons] at hascending
      rw [List.insertionSort_cons, ← ih, hcons, hsort,
        orderedInsert_append (fun b hb hle => ?_) hascending.2.1.1]
      have hgt : order a b = .gt := by simpa using hfront b hb
      rw [hgt] at hle
      contradiction

theorem eq_of_mem_iff (order : α → α → Ordering) [TransCmp order] {xs ys : List α}
    (hxs : xs.Pairwise fun a b => order a b = .lt) (hys : ys.Pairwise fun a b => order a b = .lt)
    (h : ∀ a, a ∈ xs ↔ a ∈ ys) : xs = ys := by
  have hne : ∀ {a b : α}, order a b = .lt → a ≠ b := by
    rintro a b hab rfl
    rw [(ReflCmp.compare_self : order a a = .eq)] at hab
    contradiction
  have hperm : xs.Perm ys :=
    (List.perm_ext_iff_of_nodup (hxs.imp hne) (hys.imp hne)).mpr h
  rw [← sort_eq_of_pairwise hxs hperm, sort_eq_of_pairwise hys (.refl _)]

variable {later : α → α → Ordering}

theorem pairwise_sort_compareLex {xs : List α} (h : xs.Pairwise fun a b => later a b = .lt) :
    (sort order xs).Pairwise fun a b => compareLex order later a b = .lt := by
  refine (pairwise_sort_of_pairwise h).imp ?_
  rintro a b (hlt | ⟨heq, hlt⟩)
  · rw [compareLex, hlt, Ordering.lt_then]
  · rw [compareLex, heq, hlt, Ordering.eq_then]

theorem sort_compareLex [TransCmp later] {xs ys : List α}
    (hxs : xs.Pairwise fun a b => later a b = .lt) (h : xs.Perm ys) :
    sort (compareLex order later) ys = sort order xs :=
  sort_eq_of_pairwise (pairwise_sort_compareLex hxs) ((perm_sort order xs).trans h)

omit [TransCmp order] in
theorem pairwise_zipIdx (xs : List α) : xs.zipIdx.Pairwise fun a b => a.2 < b.2 := by
  refine List.pairwise_map.mp ?_
  rw [List.zipIdx_map_snd]
  exact List.pairwise_lt_range'

/-- A list is a stable sort of another one: it has the same elements, each from a place of its own,
in ascending order, and those that compare equal in the order of their places. -/
def IsStableSort (order : α → α → Ordering) (xs sorted : List α) : Prop :=
  ∃ placed : List (α × Nat), placed.Perm xs.zipIdx ∧ placed.map Prod.fst = sorted ∧
    placed.Pairwise fun a b => order a.1 b.1 = .lt ∨ order a.1 b.1 = .eq ∧ a.2 < b.2

/-- Every list has exactly one stable sort. -/
theorem isStableSort_iff {xs sorted : List α} :
    IsStableSort order xs sorted ↔ sorted = sort order xs := by
  let byElement : α × Nat → α × Nat → Ordering := fun a b => order a.1 b.1
  let byPlace : α × Nat → α × Nat → Ordering := fun a b => integers a.2 b.2
  have : TransCmp byElement := transCmp_on order Prod.fst
  have : TransCmp byPlace := transCmp_on integers fun a : α × Nat => (a.2 : Int)
  have hplace {a b : α × Nat} : byPlace a b = .lt ↔ a.2 < b.2 :=
    integers_eq_lt.trans Int.ofNat_lt
  have hsort : (sort byElement xs.zipIdx).map Prod.fst = sort order xs := by
    rw [← sort_map order Prod.fst, List.zipIdx_map_fst]
  have hstable : (sort byElement xs.zipIdx).Pairwise fun a b =>
      byElement a b = .lt ∨ byElement a b = .eq ∧ a.2 < b.2 :=
    pairwise_sort_of_pairwise (pairwise_zipIdx xs)
  constructor
  · rintro ⟨placed, hperm, rfl, hplaced⟩
    -- both lists of placed elements are strictly ascending by element and place
    have hlt {a b : α × Nat} (h : byElement a b = .lt ∨ byElement a b = .eq ∧ a.2 < b.2) :
        compareLex byElement byPlace a b = .lt := by
      rcases h with h | ⟨h, hab⟩
      · rw [compareLex, h, Ordering.lt_then]
      · rw [compareLex, h, Ordering.eq_then, hplace.mpr hab]
    rw [← hsort, ← sort_eq_of_pairwise (hplaced.imp hlt) hperm,
      sort_eq_of_pairwise (hstable.imp hlt) (perm_sort byElement _)]
  · rintro rfl
    exact ⟨sort byElement xs.zipIdx, perm_sort byElement _, hsort, hstable⟩

end

end CrawlAudit.Order
