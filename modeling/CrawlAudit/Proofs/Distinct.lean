import Mathlib.Algebra.GroupWithZero.Nat
import Mathlib.Data.Finset.Card
import Mathlib.Data.List.Induction

/-!
# Distinct elements

The distinct elements of a list in order of appearance.
-/

namespace CrawlAudit.Distinct

variable {α : Type} [BEq α] [LawfulBEq α]

theorem nodup_eraseDups (xs : List α) : xs.eraseDups.Nodup := by
  induction hn : xs.length using Nat.strongRecOn generalizing xs with
  | ind n ih =>
      cases xs with
      | nil => exact List.nodup_nil
      | cons a as =>
          have hlt : (as.filter fun b => !b == a).length < n :=
            hn ▸ Nat.lt_succ_of_le (List.length_filter_le ..)
          rw [List.eraseDups_cons, List.nodup_cons]
          refine ⟨?_, ih _ hlt _ rfl⟩
          simp

omit [LawfulBEq α] in
theorem eraseDups_sublist (xs : List α) : xs.eraseDups.Sublist xs := by
  induction hn : xs.length using Nat.strongRecOn generalizing xs with
  | ind n ih =>
      cases xs with
      | nil => exact List.Sublist.refl _
      | cons a as =>
          have hlt : (as.filter fun b => !b == a).length < n :=
            hn ▸ Nat.lt_succ_of_le (List.length_filter_le ..)
          rw [List.eraseDups_cons]
          exact ((ih _ hlt _ rfl).trans List.filter_sublist).cons_cons a

theorem eraseDups_concat (xs : List α) (a : α) :
    (xs ++ [a]).eraseDups = if a ∈ xs then xs.eraseDups else xs.eraseDups ++ [a] := by
  rw [List.eraseDups_append]
  by_cases hmem : a ∈ xs
  · simp [List.removeAll, hmem]
  · simp [List.removeAll, hmem, List.eraseDups_cons]

theorem pairwise_idxOf (xs : List α) :
    xs.eraseDups.Pairwise fun a b => xs.idxOf a < xs.idxOf b := by
  induction xs using List.reverseRecOn with
  | nil => exact List.Pairwise.nil
  | append_singleton xs c ih =>
      have hold : xs.eraseDups.Pairwise fun a b => (xs ++ [c]).idxOf a < (xs ++ [c]).idxOf b := by
        refine ih.imp_of_mem fun ha hb hlt => ?_
        rwa [List.idxOf_append_of_mem (List.mem_eraseDups.mp ha),
          List.idxOf_append_of_mem (List.mem_eraseDups.mp hb)]
      rw [eraseDups_concat]
      split_ifs with hmem
      · exact hold
      · refine List.pairwise_append.mpr ⟨hold, List.pairwise_singleton _ _, ?_⟩
        intro a ha b hb
        obtain rfl := List.mem_singleton.mp hb
        rw [List.idxOf_append_of_mem (List.mem_eraseDups.mp ha), List.idxOf_append_of_notMem hmem]
        exact Nat.lt_of_lt_of_le (List.idxOf_lt_length_of_mem (List.mem_eraseDups.mp ha))
          (Nat.le_add_right _ _)

theorem length_eraseDups [DecidableEq α] (xs : List α) :
    xs.eraseDups.length = xs.toFinset.card := by
  have hset : xs.eraseDups.toFinset = xs.toFinset := by
    ext a
    simp
  rw [← hset, List.toFinset_card_of_nodup (nodup_eraseDups xs)]

theorem card_toFinset_flatMap {α β : Type} [DecidableEq α] {f : β → List α}
    {xs : List β} (h : xs.Pairwise fun x y => ∀ a ∈ f x, a ∉ f y) :
    (xs.flatMap f).toFinset.card = (xs.map fun x => (f x).toFinset.card).sum := by
  induction xs with
  | nil => rfl
  | cons x xs ih =>
      obtain ⟨hx, hxs⟩ := List.pairwise_cons.mp h
      have hdisjoint : Disjoint (f x).toFinset (xs.flatMap f).toFinset := by
        refine Finset.disjoint_left.mpr fun a ha hmem => ?_
        obtain ⟨y, hy, hay⟩ := List.mem_flatMap.mp (List.mem_toFinset.mp hmem)
        exact hx y hy a (List.mem_toFinset.mp ha) hay
      rw [List.flatMap_cons, List.toFinset_append, Finset.card_union_of_disjoint hdisjoint, ih hxs,
        List.map_cons, List.sum_cons]

end CrawlAudit.Distinct
