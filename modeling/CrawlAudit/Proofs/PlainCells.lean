import CrawlAudit.Proofs.IntegerDoubles
import CrawlAudit.Proofs.KeyTexts
import CrawlAudit.Query.Catalog

/-!
# Plain cells

Nulls, texts and integers are shown in a document as they are, and the cell that is read back
equals the same cells as the one that was shown. With integers of at most 53 bits, cells that
compare equal are the same.
-/

namespace CrawlAudit.Cell

open Std

/-- A null, a text or an integer. -/
def isPlain : Cell → Bool
  | .null | .int _ | .text _ => true
  | _ => false

/-- A null, a text or an integer of at most 53 bits. -/
def isExact : Cell → Bool
  | .null | .text _ => true
  | .int n => decide (n.toInt.natAbs ≤ 2 ^ 53)
  | _ => false

theorem ofJson_showDimension {c : Cell} (h : c.isPlain = true) :
    ofJson (FieldCatalog.showDimension c) = c := by
  cases c with
  | null => simp only [FieldCatalog.showDimension, toJson, ofJson]
  | text s => simp only [FieldCatalog.showDimension, toJson, ofJson]
  | int n =>
      have hlow : Int64.minValue.toInt ≤ n.toInt := n.minValue_le_toInt
      have hhigh : n.toInt ≤ Int64.maxValue.toInt := n.toInt_le
      simp only [FieldCatalog.showDimension, toJson, ofJson]
      rw [if_pos ⟨hlow, hhigh⟩, Int64.ofInt_toInt]
  | _ => contradiction

theorem totalCompare_null_eq_iff {c : Cell} : Cell.null.totalCompare c = .eq ↔ c = .null := by
  cases c with
  | null => exact iff_of_true rfl rfl
  | _ => exact iff_of_false (totalCompare_ne_eq (by simp [rank])) (by simp)

theorem looselySame_iff {a b : Cell} (ha : a.isPlain = true) (hb : b.isPlain = true) :
    b.looselySame a = true ↔ a.totalCompare b = .eq := by
  cases a with
  | null =>
      rw [totalCompare_null_eq_iff]
      cases b <;> simp_all [looselySame, same, isPlain]
  | text s =>
      rw [totalCompare_text_eq_iff]
      cases b <;> simp_all [looselySame, same, isPlain]
  | int m =>
      rw [totalCompare_int_eq_iff]
      cases b with
      | int n => simp [looselySame, number?, Binary64.sameNumber_ofInt]
      | null => simp [looselySame, same, number?]
      | text s => simp [looselySame, same, number?]
      | _ => contradiction
  | _ => contradiction

theorem eq_of_totalCompare {a b : Cell} (ha : a.isExact = true) (hb : b.isExact = true)
    (h : a.totalCompare b = .eq) : a = b := by
  cases a with
  | null => exact (totalCompare_null_eq_iff.mp h).symm
  | text s => exact (totalCompare_text_eq_iff.mp h).symm
  | int m =>
      have hnumber := totalCompare_int_eq_iff.mp h
      cases b with
      | int n =>
          rw [isExact, decide_eq_true_eq] at ha hb
          have hmn := Binary64.ofInt_injective_of_le hb ha (Option.some.inj hnumber)
          rw [Int64.toInt_inj.mp hmn]
      | null => contradiction
      | text s => contradiction
      | _ => contradiction
  | _ => contradiction

end CrawlAudit.Cell
