import CrawlAudit.Proofs.StableSort

/-!
# Classes of elements that compare equal

A list is partitioned into the classes of elements that compare equal. The runs of the sorted list
are these classes in ascending order, each with its elements in the order of the list.
-/

namespace CrawlAudit.Order

open Std

variable {α : Type}

/-- The classes of a list in the order of their first elements. -/
def classes (alike : α → α → Bool) : List α → List (List α)
  | [] => []
  | a :: as => (a :: as.filter (alike a)) :: classes alike (as.filter fun b => !alike a b)
termination_by as => as.length
decreasing_by
  have hle := List.length_filter_le (fun b => !alike a b.1) as.attach
  rw [List.length_attach] at hle
  rw [List.length_unattach]
  exact Nat.lt_succ_of_le hle

theorem classes_map {β : Type} (alike : β → β → Bool) (f : α → β) (xs : List α) :
    classes alike (xs.map f) = (classes (fun a b => alike (f a) (f b)) xs).map (List.map f) := by
  fun_induction classes (fun a b => alike (f a) (f b)) xs with
  | case1 => rw [List.map_nil, classes, List.map_nil]
  | case2 a as ih =>
      simp only [List.unattach_filter, List.unattach_attach] at ih
      rw [List.map_cons, classes, List.filter_map, List.filter_map, List.map_cons, List.map_cons]
      exact congrArg _ ih

/-- Every element of the list stands in exactly one class, a class holds all elements that are
alike to any of its own, in the order of the list, and elements of two classes are not alike. -/
structure IsPartition (alike : α → α → Bool) (xs : List α) (parts : List (List α)) : Prop where
  perm : parts.flatten.Perm xs
  eq_filter : ∀ c ∈ parts, ∀ a ∈ c, c = xs.filter (alike a)
  ne_nil : ∀ c ∈ parts, c ≠ []
  apart : parts.Pairwise fun c d => ∀ a ∈ c, ∀ b ∈ d, alike a b = false

namespace IsPartition

variable {alike : α → α → Bool} {xs : List α} {parts : List (List α)}

theorem mem_of_mem (h : IsPartition alike xs parts) {c : List α} (hc : c ∈ parts) {a : α}
    (ha : a ∈ c) : a ∈ xs :=
  h.perm.mem_iff.mp (List.mem_flatten.mpr ⟨c, hc, ha⟩)

theorem mem_iff (h : IsPartition alike xs parts) {c : List α} :
    c ∈ parts ↔ ∃ a ∈ xs, c = xs.filter (alike a) := by
  constructor
  · intro hc
    obtain ⟨a, ha⟩ := List.exists_mem_of_ne_nil c (h.ne_nil c hc)
    exact ⟨a, h.mem_of_mem hc ha, h.eq_filter c hc a ha⟩
  · rintro ⟨a, ha, rfl⟩
    obtain ⟨d, hd, had⟩ := List.mem_flatten.mp (h.perm.mem_iff.mpr ha)
    rwa [← h.eq_filter d hd a had]

theorem nodup (h : IsPartition alike xs parts) (hself : ∀ a, alike a a = true) :
    parts.Nodup := by
  refine h.apart.imp_of_mem fun {c d} hc _ hcd heq => ?_
  obtain ⟨a, ha⟩ := List.exists_mem_of_ne_nil c (h.ne_nil c hc)
  have hfalse := hcd a ha a (heq ▸ ha)
  rw [hself a] at hfalse
  contradiction

theorem perm_of_isPartition {parts' : List (List α)} (h : IsPartition alike xs parts)
    (h' : IsPartition alike xs parts') (hself : ∀ a, alike a a = true) : parts.Perm parts' :=
  (List.perm_ext_iff_of_nodup (h.nodup hself) (h'.nodup hself)).mpr fun _ => by
    rw [h.mem_iff, h'.mem_iff]

end IsPartition

section

variable {order : α → α → Ordering} [TransCmp order]

theorem tied_self (a : α) : tied order a a = true := by
  simp [tied, (ReflCmp.compare_self : order a a = .eq)]

theorem tied_congr {a b : α} (h : tied order a b = true) : tied order a = tied order b := by
  funext c
  have hab : order a b = .eq := by simpa [tied] using h
  simp only [tied, TransCmp.congr_left hab]

theorem tied_comm (a b : α) : tied order a b = tied order b a := by
  rw [tied, tied, (OrientedCmp.eq_swap : order a b = (order b a).swap)]
  cases order b a <;> rfl

theorem IsPartition.cons {a : α} {as : List α} {parts : List (List α)}
    (h : IsPartition (tied order) (as.filter fun b => !tied order a b) parts) :
    IsPartition (tied order) (a :: as) ((a :: as.filter (tied order a)) :: parts) := by
  have hfirst : a :: as.filter (tied order a) = (a :: as).filter (tied order a) := by
    rw [List.filter_cons_of_pos (tied_self a)]
  have hapart : ∀ c ∈ parts, ∀ b ∈ c, tied order a b = false := by
    intro c hc b hb
    simpa using (List.mem_filter.mp (h.mem_of_mem hc hb)).2
  refine ⟨?_, ?_, ?_, ?_⟩
  · rw [List.flatten_cons, List.cons_append]
    exact ((h.perm.append_left _).trans (List.filter_append_perm _ as)).cons a
  · intro c hc b hb
    rcases List.mem_cons.mp hc with rfl | hc
    · rw [hfirst] at hb ⊢
      rw [tied_congr (List.mem_filter.mp hb).2]
    · have hab := hapart c hc b hb
      have hba : tied order b a = false := by rwa [tied_comm]
      rw [h.eq_filter c hc b hb, List.filter_cons_of_neg (by simp [hba]), List.filter_filter]
      refine List.filter_congr fun d _ => ?_
      cases hbd : tied order b d with
      | false => rfl
      | true =>
          have had : tied order a d = false := by rw [tied_comm, ← tied_congr hbd, hba]
          simp [had]
  · intro c hc
    rcases List.mem_cons.mp hc with rfl | hc
    · simp
    · exact h.ne_nil c hc
  · refine List.pairwise_cons.mpr ⟨fun d hd b hb e he => ?_, h.apart⟩
    rw [hfirst] at hb
    rw [← tied_congr (List.mem_filter.mp hb).2]
    exact hapart d hd e he

omit [TransCmp order] in
theorem isPartition_nil : IsPartition (tied order) [] [] :=
  ⟨.refl _, by simp, by simp, .nil⟩

theorem isPartition_classes (xs : List α) :
    IsPartition (tied order) xs (classes (tied order) xs) := by
  induction hn : xs.length using Nat.strongRecOn generalizing xs with
  | ind n ih =>
      cases xs with
      | nil =>
          rw [Order.classes]
          exact isPartition_nil
      | cons a as =>
          have hlt : (as.filter fun b => !tied order a b).length < n :=
            hn ▸ Nat.lt_succ_of_le (List.length_filter_le ..)
          rw [Order.classes]
          exact .cons (ih _ hlt _ rfl)

theorem dropWhile_tied {a : α} {as : List α} (h : (a :: as).Pairwise fun b c => (order b c).isLE) :
    as.takeWhile (tied order a) = as.filter (tied order a) ∧
      as.dropWhile (tied order a) = as.filter fun b => !tied order a b := by
  induction as with
  | nil => exact ⟨rfl, rfl⟩
  | cons b as ih =>
      obtain ⟨ha, hbas⟩ := List.pairwise_cons.mp h
      obtain ⟨hb, has⟩ := List.pairwise_cons.mp hbas
      have hrest := ih (List.pairwise_cons.mpr ⟨fun c hc => ha c (List.mem_cons_of_mem _ hc), has⟩)
      cases hab : tied order a b with
      | true => simp [hab, hrest]
      | false =>
          -- the first element that is greater hides no tied one behind it
          have hlt : order a b = .lt := by
            have hle := ha b (List.mem_cons_self ..)
            cases ho : order a b <;> simp_all [tied]
          have hnone : ∀ c ∈ as, tied order a c = false := fun c hc => by
            simp [tied, TransCmp.lt_of_lt_of_isLE hlt (hb c hc)]
          have hempty : as.filter (tied order a) = [] :=
            List.filter_eq_nil_iff.mpr fun c hc => by simp [hnone c hc]
          have hall : (as.filter fun c => !tied order a c) = as :=
            List.filter_eq_self.mpr fun c hc => by simp [hnone c hc]
          simp [hab, hempty, hall]

theorem isPartition_runs {xs : List α} (h : xs.Pairwise fun a b => (order a b).isLE) :
    IsPartition (tied order) xs (runs order xs) ∧
      (runs order xs).Pairwise fun c d => ∀ a ∈ c, ∀ b ∈ d, order a b = .lt := by
  fun_induction runs order xs with
  | case1 => exact ⟨isPartition_nil, .nil⟩
  | case2 a as ih =>
      obtain ⟨htake, hdrop⟩ := dropWhile_tied h
      obtain ⟨ha, has⟩ := List.pairwise_cons.mp h
      obtain ⟨hparts, hlt⟩ := ih (has.sublist (List.dropWhile_sublist _))
      rw [hdrop] at hparts hlt ⊢
      rw [htake]
      refine ⟨hparts.cons, List.pairwise_cons.mpr ⟨fun d hd b hb e he => ?_, hlt⟩⟩
      have hae := List.mem_filter.mp (hparts.mem_of_mem hd he)
      have hne : order a e ≠ .eq := by simpa [tied] using hae.2
      have hab : order a b = .eq := by
        rcases List.mem_cons.mp hb with rfl | hb
        · exact ReflCmp.compare_self
        · simpa [tied] using (List.mem_filter.mp hb).2
      rw [← TransCmp.congr_left hab]
      cases ho : order a e with
      | lt => rfl
      | eq => exact absurd ho hne
      | gt =>
          have hle := ha e hae.1
          simp [ho] at hle

/-- The runs of the sorted list are the classes of the list, in strictly ascending order. -/
theorem isPartition_runs_sort (order : α → α → Ordering) [TransCmp order] (xs : List α) :
    IsPartition (tied order) xs (runs order (sort order xs)) ∧
      (runs order (sort order xs)).Pairwise fun c d => ∀ a ∈ c, ∀ b ∈ d, order a b = .lt := by
  obtain ⟨h, hlt⟩ := isPartition_runs (pairwise_sort order xs)
  refine ⟨⟨h.perm.trans (perm_sort order xs), ?_, h.ne_nil, h.apart⟩, hlt⟩
  intro c hc a ha
  rw [h.eq_filter c hc a ha]
  exact filter_tied_sort xs a

end

end CrawlAudit.Order
