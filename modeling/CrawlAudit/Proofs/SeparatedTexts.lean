import Mathlib.Data.List.Basic

/-!
# Texts between separators

A text is split at its separators in one way only: its pieces are the texts without a separator
that it is joined from.
-/

namespace CrawlAudit.SeparatedText

variable {separator : Char}

theorem not_mem_of_mem_splitOn {cs piece : List Char} (h : piece ∈ cs.splitOn separator) :
    separator ∉ piece := by
  induction cs generalizing piece with
  | nil =>
      rw [List.splitOn_nil, List.mem_singleton] at h
      rw [h]
      exact List.not_mem_nil
  | cons c cs ih =>
      obtain ⟨first, rest, hsplit⟩ :=
        List.exists_cons_of_ne_nil (List.splitOn_ne_nil separator cs)
      rw [List.splitOn_cons_eq_if_modifyHead] at h
      split at h
      · rcases List.mem_cons.mp h with rfl | hmem
        · exact List.not_mem_nil
        · exact ih hmem
      · rename_i hne
        rw [hsplit, List.modifyHead_cons] at h
        rcases List.mem_cons.mp h with rfl | hmem
        · rw [List.mem_cons]
          rintro (rfl | hmem)
          · exact hne BEq.rfl
          · exact ih (hsplit ▸ List.mem_cons_self ..) hmem
        · exact ih (hsplit ▸ List.mem_cons_of_mem _ hmem)

theorem splitOn_eq_iff {cs : List Char} {pieces : List (List Char)} :
    cs.splitOn separator = pieces ↔
      pieces ≠ [] ∧ (∀ piece ∈ pieces, separator ∉ piece) ∧
        cs = [separator].intercalate pieces := by
  constructor
  · rintro rfl
    exact ⟨List.splitOn_ne_nil _ _, fun _ => not_mem_of_mem_splitOn,
      (List.intercalate_splitOn separator).symm⟩
  · rintro ⟨hne, hplain, rfl⟩
    exact List.splitOn_intercalate separator hplain hne

theorem intercalate_append {front back : List (List Char)} (hfront : front ≠ [])
    (hback : back ≠ []) :
    [separator].intercalate (front ++ back) =
      [separator].intercalate front ++ separator :: [separator].intercalate back := by
  induction front with
  | nil => exact absurd rfl hfront
  | cons piece front ih =>
      cases front with
      | nil =>
          rw [List.singleton_append, List.intercalate_cons_of_ne_nil hback,
            List.intercalate_singleton, List.append_assoc, List.singleton_append]
      | cons second front =>
          rw [List.cons_append, List.cons_append, List.intercalate_cons_cons, ← List.cons_append,
            ih (List.cons_ne_nil _ _), List.intercalate_cons_cons]
          simp only [List.append_assoc]

theorem mem_of_mem_intercalate {c : Char} {pieces : List (List Char)}
    (h : c ∈ [separator].intercalate pieces) : c = separator ∨ ∃ piece ∈ pieces, c ∈ piece := by
  induction pieces with
  | nil => cases h
  | cons piece pieces ih =>
      rcases eq_or_ne pieces [] with rfl | hne
      · rw [List.intercalate_singleton] at h
        exact .inr ⟨piece, List.mem_singleton_self _, h⟩
      · rw [List.intercalate_cons_of_ne_nil hne, List.append_assoc, List.singleton_append,
          List.mem_append, List.mem_cons] at h
        rcases h with hpiece | rfl | hrest
        · exact .inr ⟨piece, List.mem_cons_self .., hpiece⟩
        · exact .inl rfl
        · exact (ih hrest).imp_right fun ⟨other, hmem, hc⟩ =>
            ⟨other, List.mem_cons_of_mem _ hmem, hc⟩

end CrawlAudit.SeparatedText
