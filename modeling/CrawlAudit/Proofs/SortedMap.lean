import CrawlAudit.Proofs.StableSort
import CrawlAudit.Sorted
import Mathlib.Data.List.Induction

/-!
# Laws of sorted associations

Changing the value of one key keeps the keys ascending and leaves the values of the others as they
are, and associations in which every key has the same value are equal.
-/

namespace CrawlAudit.Sorted

open Std

variable {κ ν : Type} {order : κ → κ → Ordering}

/-- The keys are strictly ascending. -/
def IsSorted (order : κ → κ → Ordering) (entries : List (κ × ν)) : Prop :=
  entries.Pairwise fun a b => order a.1 b.1 = .lt

theorem isSorted_nil : IsSorted order ([] : List (κ × ν)) :=
  List.Pairwise.nil

theorem mem_alter {key : κ} {change : Option ν → ν} {entries : List (κ × ν)} {e : κ × ν}
    (h : e ∈ alter order key change entries) : (∃ old, e = (key, change old)) ∨ e ∈ entries := by
  induction entries with
  | nil => exact Or.inl ⟨none, List.mem_singleton.mp h⟩
  | cons hd rest ih =>
      rw [alter] at h
      cases ho : order key hd.1 with
      | lt =>
          rw [ho] at h
          rcases List.mem_cons.mp h with rfl | h
          · exact Or.inl ⟨none, rfl⟩
          · exact Or.inr h
      | eq =>
          rw [ho] at h
          rcases List.mem_cons.mp h with rfl | h
          · exact Or.inl ⟨some hd.2, rfl⟩
          · exact Or.inr (List.mem_cons_of_mem _ h)
      | gt =>
          rw [ho] at h
          rcases List.mem_cons.mp h with rfl | h
          · exact Or.inr (List.mem_cons_self ..)
          · exact (ih h).imp_right (List.mem_cons_of_mem _)

theorem mem_insert {key : κ} {value : ν} {entries : List (κ × ν)} {e : κ × ν}
    (h : e ∈ insert order key value entries) : e = (key, value) ∨ e ∈ entries :=
  (mem_alter h).imp_left fun ⟨_, he⟩ => he

theorem find?_eq_none_of_lt {key : κ} {entries : List (κ × ν)}
    (h : ∀ e ∈ entries, order key e.1 = .lt) : find? order key entries = none := by
  induction entries with
  | nil => rfl
  | cons hd rest ih =>
      obtain ⟨hhd, hrest⟩ := List.forall_mem_cons.mp h
      rw [find?, hhd, if_neg (by decide), ih hrest]

theorem find?_alter_of_eq [ReflCmp order] {key : κ} {change : Option ν → ν}
    {entries : List (κ × ν)} {v : ν} (hnone : change none = v)
    (hfound : change (find? order key entries) = v) :
    find? order key (alter order key change entries) = some v := by
  have hself : order key key = .eq := ReflCmp.compare_self
  induction entries with
  | nil => rw [alter, hnone, find?, if_pos hself]
  | cons hd rest ih =>
      rw [alter]
      rw [find?] at hfound
      cases ho : order key hd.1 with
      | lt => rw [hnone, find?, if_pos hself]
      | eq =>
          rw [if_pos ho] at hfound
          rw [hfound, find?, if_pos hself]
      | gt =>
          rw [if_neg (by rw [ho]; decide)] at hfound
          rw [find?, if_neg (by rw [ho]; decide), ih hfound]

section

variable [TransCmp order]

theorem isSorted_alter (key : κ) (change : Option ν → ν) {entries : List (κ × ν)}
    (h : IsSorted order entries) : IsSorted order (alter order key change entries) := by
  induction entries with
  | nil => exact List.pairwise_singleton _ _
  | cons hd rest ih =>
      obtain ⟨hhd, hrest⟩ := List.pairwise_cons.mp h
      rw [alter]
      cases ho : order key hd.1 with
      | lt =>
          refine List.pairwise_cons.mpr ⟨fun e he => ?_, h⟩
          rcases List.mem_cons.mp he with rfl | he
          · exact ho
          · exact TransCmp.lt_trans ho (hhd e he)
      | eq =>
          refine List.pairwise_cons.mpr ⟨fun e he => ?_, hrest⟩
          rw [TransCmp.congr_left ho]
          exact hhd e he
      | gt =>
          refine List.pairwise_cons.mpr ⟨fun e he => ?_, ih hrest⟩
          rcases mem_alter he with ⟨old, rfl⟩ | he
          · exact OrientedCmp.lt_of_gt ho
          · exact hhd e he

theorem find?_alter_self (key : κ) (change : Option ν → ν) {entries : List (κ × ν)}
    (h : IsSorted order entries) :
    find? order key (alter order key change entries) =
      some (change (find? order key entries)) := by
  have hself : order key key = .eq := ReflCmp.compare_self
  induction entries with
  | nil => exact if_pos hself
  | cons hd rest ih =>
      obtain ⟨hhd, hrest⟩ := List.pairwise_cons.mp h
      rw [alter]
      cases ho : order key hd.1 with
      | lt =>
          have hnone : find? order key (hd :: rest) = none := by
            refine find?_eq_none_of_lt (List.forall_mem_cons.mpr ⟨ho, fun e he => ?_⟩)
            exact TransCmp.lt_trans ho (hhd e he)
          rw [hnone]
          exact if_pos hself
      | eq => rw [find?, if_pos hself, find?, if_pos ho]
      | gt => rw [find?, ho, if_neg (by decide), ih hrest, find?, ho, if_neg (by decide)]

theorem find?_alter_of_ne {key k : κ} (hne : order k key ≠ .eq) (change : Option ν → ν)
    (entries : List (κ × ν)) :
    find? order k (alter order key change entries) = find? order k entries := by
  induction entries with
  | nil => exact if_neg hne
  | cons hd rest ih =>
      rw [alter]
      cases ho : order key hd.1 with
      | lt => exact if_neg hne
      | eq =>
          have hne' : order k hd.1 ≠ .eq := by rwa [← TransCmp.congr_right ho]
          rw [find?, if_neg hne, find?, if_neg hne']
      | gt => rw [find?, ih, find?]

end

variable [LawfulEqCmp order]

theorem find?_eq_some_iff {entries : List (κ × ν)} (h : IsSorted order entries) (k : κ) (v : ν) :
    find? order k entries = some v ↔ (k, v) ∈ entries := by
  induction entries with
  | nil => simp [find?]
  | cons hd rest ih =>
      obtain ⟨hhd, hrest⟩ := List.pairwise_cons.mp h
      rw [find?, List.mem_cons]
      split
      · rename_i heq
        have hk : k = hd.1 := LawfulEqCmp.eq_of_compare heq
        have hrest' : (k, v) ∉ rest := by
          intro hmem
          have hlt := hhd _ hmem
          rw [← hk, (ReflCmp.compare_self : order k k = .eq)] at hlt
          contradiction
        rw [Option.some_inj, hk, or_iff_left (hk ▸ hrest'), Prod.ext_iff]
        exact ⟨fun h => ⟨rfl, h.symm⟩, fun h => h.2.symm⟩
      · rename_i hne
        rw [ih hrest, or_iff_right]
        rintro rfl
        exact hne ReflCmp.compare_self

theorem find?_alter [TransCmp order] [DecidableEq κ] (key k : κ) (change : Option ν → ν)
    {entries : List (κ × ν)} (h : IsSorted order entries) :
    find? order k (alter order key change entries) =
      if k = key then some (change (find? order key entries)) else find? order k entries := by
  split
  · rename_i heq
    rw [heq, find?_alter_self key change h]
  · rename_i hne
    exact find?_alter_of_ne (fun heq => hne (LawfulEqCmp.eq_of_compare heq)) change entries

theorem find?_insert [TransCmp order] [DecidableEq κ] (key k : κ) (value : ν)
    (entries : List (κ × ν)) :
    find? order k (insert order key value entries) =
      if k = key then some value else find? order k entries := by
  split
  · rename_i heq
    rw [heq]
    exact find?_alter_of_eq rfl rfl
  · rename_i hne
    exact find?_alter_of_ne (fun heq => hne (LawfulEqCmp.eq_of_compare heq)) _ entries

omit [LawfulEqCmp order] in
theorem lookup_cons_eq [DecidableEq κ] (k : κ) (entry : κ × ν) (rest : List (κ × ν)) :
    (entry :: rest).lookup k = if k = entry.1 then some entry.2 else rest.lookup k := by
  rw [List.lookup_cons]
  by_cases hk : k = entry.1
  · simp [hk]
  · simp [hk, beq_eq_false_iff_ne.mpr hk]

omit [LawfulEqCmp order] in
theorem lookup_eq_find? [DecidableEq κ] (order : κ → κ → Ordering) [LawfulEqCmp order] (k : κ)
    (entries : List (κ × ν)) : entries.lookup k = find? order k entries := by
  induction entries with
  | nil => rfl
  | cons hd rest ih =>
      rw [lookup_cons_eq, find?, ih]
      simp only [LawfulEqCmp.compare_eq_iff_eq]

theorem lookup_eq_some_iff [DecidableEq κ] {entries : List (κ × ν)} (h : IsSorted order entries)
    {k : κ} {v : ν} : entries.lookup k = some v ↔ (k, v) ∈ entries := by
  rw [lookup_eq_find? order, find?_eq_some_iff h]

theorem lookup_insert [DecidableEq κ] [TransCmp order] (key k : κ) (value : ν)
    (entries : List (κ × ν)) :
    (insert order key value entries).lookup k =
      if k = key then some value else entries.lookup k := by
  rw [lookup_eq_find? order, find?_insert, lookup_eq_find? order]

theorem lookup_ofList_map [DecidableEq κ] [TransCmp order] (keys : List κ) (f : κ → ν) (k : κ) :
    (ofList order (keys.map fun key => (key, f key))).lookup k =
      if k ∈ keys then some (f k) else none := by
  induction keys using List.reverseRecOn with
  | nil => rfl
  | append_singleton keys key ih =>
      rw [ofList, List.map_append, List.foldl_append]
      change (insert order key (f key) (ofList order _)).lookup k = _
      rw [lookup_insert, ih]
      by_cases hk : k = key <;> simp [hk]

theorem perm_insert {key : κ} {value : ν} {entries : List (κ × ν)} (h : ∀ e ∈ entries, e.1 ≠ key) :
    (insert order key value entries).Perm ((key, value) :: entries) := by
  induction entries with
  | nil => exact List.Perm.refl _
  | cons hd rest ih =>
      obtain ⟨hhd, hrest⟩ := List.forall_mem_cons.mp h
      rw [insert, alter]
      cases ho : order key hd.1 with
      | lt => exact List.Perm.refl _
      | eq => exact absurd (LawfulEqCmp.eq_of_compare ho).symm hhd
      | gt => exact ((ih hrest).cons hd).trans (List.Perm.swap ..)

theorem perm_ofList {entries : List (κ × ν)} (h : (entries.map Prod.fst).Nodup) :
    (ofList order entries).Perm entries := by
  induction entries using List.reverseRecOn with
  | nil => exact List.Perm.refl _
  | append_singleton entries e ih =>
      rw [List.map_append, List.nodup_append] at h
      obtain ⟨hentries, -, hdisjoint⟩ := h
      have hperm := ih hentries
      have hfresh : ∀ e' ∈ ofList order entries, e'.1 ≠ e.1 := by
        intro e' he'
        exact hdisjoint _ (List.mem_map_of_mem (hperm.mem_iff.mp he')) _ (List.mem_singleton_self _)
      rw [ofList, List.foldl_append]
      refine (perm_insert hfresh).trans ((hperm.cons e).trans ?_)
      exact (List.perm_append_singleton e entries).symm

omit [LawfulEqCmp order] in
theorem isSorted_ofList [TransCmp order] (entries : List (κ × ν)) :
    IsSorted order (ofList order entries) := by
  induction entries using List.reverseRecOn with
  | nil => exact isSorted_nil
  | append_singleton entries e ih =>
      rw [ofList, List.foldl_append]
      exact isSorted_alter _ _ ih

theorem ofList_eq_of_perm [TransCmp order] {entries sorted : List (κ × ν)}
    (hkeys : (sorted.map Prod.fst).Pairwise fun a b => order a b = .lt)
    (h : entries.Perm sorted) : ofList order entries = sorted := by
  have hnodup : (sorted.map Prod.fst).Nodup := by
    refine hkeys.imp fun {a b} hlt heq => ?_
    rw [heq, (ReflCmp.compare_self : order b b = .eq)] at hlt
    cases hlt
  have hperm : (ofList order entries).Perm sorted :=
    (perm_ofList ((h.map Prod.fst).nodup_iff.mpr hnodup)).trans h
  refine hperm.eq_of_pairwise (fun a b _ _ hab hba => ?_) (isSorted_ofList entries)
    (List.pairwise_map.mp hkeys)
  rw [OrientedCmp.gt_of_lt hab] at hba
  cases hba

section

omit [LawfulEqCmp order]

variable [TransCmp order]

theorem insert_insert_self (key : κ) (value old : ν) (entries : List (κ × ν)) :
    insert order key value (insert order key old entries) = insert order key value entries := by
  have hself : order key key = .eq := ReflCmp.compare_self
  simp only [insert]
  induction entries with
  | nil => simp only [alter, hself]
  | cons hd rest ih => cases ho : order key hd.1 <;> simp only [alter, ho, hself, ih]

theorem insert_insert_of_lt {key k : κ} (h : order key k = .lt) (value other : ν)
    (entries : List (κ × ν)) :
    insert order key value (insert order k other entries) =
      insert order k other (insert order key value entries) := by
  have hgt : order k key = .gt := OrientedCmp.gt_of_lt h
  simp only [insert]
  induction entries with
  | nil => simp only [alter, h, hgt]
  | cons hd rest ih =>
      cases ho : order key hd.1 with
      | lt => cases ho' : order k hd.1 <;> simp only [alter, h, hgt, ho, ho']
      | eq =>
          have ho' : order k hd.1 = .gt := by rw [← TransCmp.congr_right ho, hgt]
          simp only [alter, hgt, ho, ho']
      | gt =>
          have ho' : order k hd.1 = .gt := TransCmp.gt_trans hgt ho
          simp only [alter, ho, ho', ih]

theorem insert_comm {key k : κ} (hne : order key k ≠ .eq) (value other : ν)
    (entries : List (κ × ν)) :
    insert order key value (insert order k other entries) =
      insert order k other (insert order key value entries) := by
  cases ho : order key k with
  | lt => exact insert_insert_of_lt ho value other entries
  | eq => exact absurd ho hne
  | gt => exact (insert_insert_of_lt (OrientedCmp.lt_of_gt ho) other value entries).symm

end

end CrawlAudit.Sorted
