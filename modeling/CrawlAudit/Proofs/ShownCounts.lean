import CrawlAudit.Proofs.CellOrder
import CrawlAudit.Proofs.IntegerDoubles
import CrawlAudit.Query.Catalog
import Mathlib.Algebra.Group.Int.Defs

/-!
# Counts as they are shown

Counters are ranked by the total order, which compares numbers as doubles and puts nulls below
them, and shown as integers. On counts both agree: greater doubles have greater integer parts, and
an integer of at most 53 bits is the integer part of its double.
-/

namespace CrawlAudit

namespace Binary64

theorem unitsOfMagnitude_mono {m n : Nat} (h : m ≤ n) :
    unitsOfMagnitude m ≤ unitsOfMagnitude n := by
  have hexponent : m / 2 ^ 52 ≤ n / 2 ^ 52 := Nat.div_le_div_right h
  have hm := Nat.div_add_mod m (2 ^ 52)
  have hn := Nat.div_add_mod n (2 ^ 52)
  have hmlt := Nat.mod_lt m (Nat.two_pow_pos 52)
  simp only [unitsOfMagnitude, Nat.pow_eq]
  split_ifs with hmzero hnzero hnzero
  · exact h
  · calc
      m ≤ n % 2 ^ 52 + 2 ^ 52 := by omega
      _ ≤ (n % 2 ^ 52 + 2 ^ 52) * 2 ^ (n / 2 ^ 52 - 1) :=
        Nat.le_mul_of_pos_right _ (Nat.two_pow_pos _)
  · omega
  · rcases Nat.lt_or_eq_of_le hexponent with hlt | heq
    · calc
        (m % 2 ^ 52 + 2 ^ 52) * 2 ^ (m / 2 ^ 52 - 1) ≤ 2 ^ 52 * 2 * 2 ^ (m / 2 ^ 52 - 1) :=
          Nat.mul_le_mul_right _ (by omega)
        _ = 2 ^ 52 * 2 ^ (m / 2 ^ 52 - 1 + 1) := by rw [Nat.mul_assoc, ← Nat.pow_succ']
        _ ≤ 2 ^ 52 * 2 ^ (n / 2 ^ 52 - 1) :=
          Nat.mul_le_mul_left _ (Nat.pow_le_pow_right Nat.two_pos (by omega))
        _ ≤ (n % 2 ^ 52 + 2 ^ 52) * 2 ^ (n / 2 ^ 52 - 1) :=
          Nat.mul_le_mul_right _ (Nat.le_add_left _ _)
    · rw [heq]
      exact Nat.mul_le_mul_right _ (by omega)

theorem units_mono {x y : Binary64} (h : x.totalPlace ≤ y.totalPlace) : x.units ≤ y.units := by
  have hmono {m n : Nat} (hmn : m ≤ n) := unitsOfMagnitude_mono hmn
  rw [totalPlace, totalPlace] at h
  rw [units, units]
  cases hx : x.negative <;> cases hy : y.negative <;>
    simp only [hx, hy, Bool.false_eq_true, if_false, if_true] at h ⊢
  · exact Int.ofNat_le.mpr (hmono (by omega))
  · omega
  · omega
  · exact Int.neg_le_neg (Int.ofNat_le.mpr (hmono (by omega)))

theorem truncate_mono {x y : Binary64} (h : x.totalPlace ≤ y.totalPlace) :
    x.truncate ≤ y.truncate :=
  Int.tdiv_le_tdiv (Int.ofNat_lt.mpr unitsPerOne_pos) (units_mono h)

theorem truncate_nonneg {x : Binary64} (h : 0 ≤ x.units) : 0 ≤ x.truncate := by
  rw [truncate]
  exact Int.tdiv_nonneg h (Int.natCast_nonneg _)

theorem unitsOfMagnitude_magnitudeOfUnits {k : Nat} (h : k ≤ 2 ^ 53) :
    unitsOfMagnitude (magnitudeOfUnits (k * unitsPerOne) 1) = k * unitsPerOne := by
  rcases Nat.eq_zero_or_pos k with rfl | hpos
  · rw [Nat.zero_mul]
    rfl
  · obtain ⟨q, shift, heq, hlow, hhigh, hshift⟩ := exists_significand_units hpos h
    have hexponent : (shift * 2 ^ 52 + q) / 2 ^ 52 = shift + 1 := by omega
    have hsignificand : (shift * 2 ^ 52 + q) % 2 ^ 52 + 2 ^ 52 = q := by omega
    rw [heq, magnitudeOfUnits_mul_pow hlow hhigh hshift]
    simp only [unitsOfMagnitude, Nat.pow_eq, hexponent, hsignificand, Nat.add_sub_cancel,
      Nat.add_one_ne_zero, if_false]

theorem units_ofInt {n : Int} (h : n.natAbs ≤ 2 ^ 53) : (ofInt n).units = n * unitsPerOne := by
  rw [units, negative_ofInt, magnitude_ofInt, unitsOfMagnitude_magnitudeOfUnits h, Int.natCast_mul]
  simp only [decide_eq_true_eq]
  split_ifs with hneg
  · rw [← Int.neg_mul]
    congr 1
    omega
  · congr 1
    omega

theorem truncate_ofInt {n : Int} (h : n.natAbs ≤ 2 ^ 53) : (ofInt n).truncate = n := by
  rw [truncate, units_ofInt h]
  exact Int.mul_tdiv_cancel n (Int.natCast_ne_zero.mpr unitsPerOne_pos.ne')

end Binary64

namespace Cell

/-- Null, an integer from 0 to `2 ^ 53`, or a finite double that is not below zero. -/
def IsCount : Cell → Prop
  | .null => True
  | .int n => 0 ≤ n.toInt ∧ n.toInt ≤ 2 ^ 53
  | .float x => x.isFinite = true ∧ 0 ≤ x.units
  | _ => False

instance (c : Cell) : Decidable c.IsCount :=
  match c with
  | .null => isTrue trivial
  | .int n => inferInstanceAs (Decidable (0 ≤ n.toInt ∧ n.toInt ≤ 2 ^ 53))
  | .float x => inferInstanceAs (Decidable (x.isFinite = true ∧ 0 ≤ x.units))
  | .bool _ | .text _ | .list _ => isFalse id

theorem toInt_ofIntClamp (n : Int) :
    (Int64.ofIntClamp n).toInt = max Int64.minValue.toInt (min n Int64.maxValue.toInt) := by
  have hle : Int64.minValue.toInt ≤ Int64.maxValue.toInt := by decide
  rw [Int64.ofIntClamp]
  split_ifs with hmin hmax
  · rw [Int64.toInt_ofIntLE]
    omega
  · omega
  · omega

theorem ofIntClamp_mono {m n : Int} (h : m ≤ n) : Int64.ofIntClamp m ≤ Int64.ofIntClamp n := by
  rw [Int64.le_iff_toInt_le, toInt_ofIntClamp, toInt_ofIntClamp]
  omega

theorem eq_null_of_isCount {c : Cell} (h : c.IsCount) (hnumber : c.number? = none) : c = .null := by
  cases c with
  | null => rfl
  | int n => cases hnumber
  | float x => cases hnumber
  | bool b => exact h.elim
  | text s => exact h.elim
  | list items => exact h.elim

theorem shownNumber_of_isCount {c : Cell} (h : c.IsCount) {x : Binary64} (hx : c.number? = some x) :
    FieldCatalog.shownNumber (some c) = Int64.ofIntClamp x.truncate ∧ 0 ≤ x.units := by
  cases c with
  | int n =>
      obtain rfl := Option.some.inj hx
      have habs : n.toInt.natAbs ≤ 2 ^ 53 := by
        have hbounds := h
        simp only [IsCount] at hbounds
        omega
      refine ⟨?_, ?_⟩
      · rw [Binary64.truncate_ofInt habs]
        exact (Int64.ofIntClamp_toInt n).symm
      · rw [Binary64.units_ofInt habs]
        exact Int.mul_nonneg h.1 (Int.natCast_nonneg _)
  | float y =>
      obtain rfl := Option.some.inj hx
      exact ⟨by rw [FieldCatalog.shownNumber, integer?, if_pos h.1, Option.getD_some], h.2⟩
  | null => contradiction
  | bool b => exact h.elim
  | text s => exact h.elim
  | list items => exact h.elim

/-- Counts are shown in the order in which they are ranked. -/
theorem shownNumber_mono {a b : Cell} (ha : a.IsCount) (hb : b.IsCount)
    (h : (a.totalCompare b).isLE) :
    FieldCatalog.shownNumber (some a) ≤ FieldCatalog.shownNumber (some b) := by
  cases hbx : b.number? with
  | none =>
      have hbnull := eq_null_of_isCount hb hbx
      rw [hbnull] at h ⊢
      have hrank := rank_le_of_isLE h
      have hanull : a = .null := by
        cases a with
        | null => rfl
        | _ => exact absurd hrank (by simp [rank])
      rw [hanull]
      exact Int64.le_refl _
  | some y =>
      obtain ⟨hbshown, hbunits⟩ := shownNumber_of_isCount hb hbx
      cases hax : a.number? with
      | none =>
          have hzero : FieldCatalog.shownNumber (some .null) = Int64.ofIntClamp 0 := by decide
          rw [eq_null_of_isCount ha hax, hbshown, hzero]
          exact ofIntClamp_mono (Binary64.truncate_nonneg hbunits)
      | some x =>
          obtain ⟨hashown, -⟩ := shownNumber_of_isCount ha hax
          rw [totalCompare_number hax hbx] at h
          rw [hashown, hbshown]
          exact ofIntClamp_mono (Binary64.truncate_mono (Order.isLE_integers.mp h))

end Cell

end CrawlAudit
