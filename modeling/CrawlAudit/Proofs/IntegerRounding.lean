import CrawlAudit.Proofs.IntegerDoubles
import Mathlib.Order.Lattice

/-!
# Rounding of integers

Rounding an integer to a double keeps the order, so that doubles of integers compare as the
integers do unless they are the same double. Integers of less than 53 bits share their doubles with
no others.
-/

namespace CrawlAudit.Binary64

open Std

theorem le_divNearestEven (num den : Nat) : num / den ≤ divNearestEven num den := by
  simp only [divNearestEven]
  split_ifs <;> omega

theorem divNearestEven_le (num den : Nat) : divNearestEven num den ≤ num / den + 1 := by
  simp only [divNearestEven]
  split_ifs <;> omega

theorem divNearestEven_mono {m n : Nat} (den : Nat) (h : m ≤ n) :
    divNearestEven m den ≤ divNearestEven n den := by
  rcases Nat.lt_or_eq_of_le (Nat.div_le_div_right (c := den) h) with hlt | heq
  · calc
      divNearestEven m den ≤ m / den + 1 := divNearestEven_le m den
      _ ≤ n / den := hlt
      _ ≤ divNearestEven n den := le_divNearestEven n den
  · -- within one quotient the remainders decide
    have hm := Nat.div_add_mod m den
    have hn := Nat.div_add_mod n den
    rw [← heq] at hn
    simp only [divNearestEven, ← heq]
    split_ifs <;> omega

theorem log2_mono {m n : Nat} (h : m ≤ n) : Nat.log2 m ≤ Nat.log2 n := by
  rcases Nat.eq_zero_or_pos m with rfl | hm
  · exact Nat.zero_le _
  · have hn : n ≠ 0 := (hm.trans_le h).ne'
    exact (Nat.le_log2 hn).mpr ((Nat.log2_self_le hm.ne').trans h)

theorem divNearestEven_significand (n : Nat) :
    divNearestEven n (2 ^ (Nat.log2 n - 52)) ≤ 2 ^ 53 ∧
      (0 < Nat.log2 n - 52 → 2 ^ 52 ≤ divNearestEven n (2 ^ (Nat.log2 n - 52))) := by
  constructor
  · have hlt : n < 2 ^ 53 * 2 ^ (Nat.log2 n - 52) := by
      rw [← Nat.pow_add]
      exact Nat.lt_log2_self.trans_le (Nat.pow_le_pow_right Nat.two_pos (by omega))
    calc
      divNearestEven n _ ≤ n / 2 ^ (Nat.log2 n - 52) + 1 := divNearestEven_le _ _
      _ ≤ 2 ^ 53 := (Nat.div_lt_iff_lt_mul (Nat.two_pow_pos _)).mpr hlt
  · intro hshift
    have hn : n ≠ 0 := by
      rintro rfl
      simp at hshift
    have hle : 2 ^ 52 * 2 ^ (Nat.log2 n - 52) ≤ n := by
      rw [← Nat.pow_add, show 52 + (Nat.log2 n - 52) = Nat.log2 n by omega]
      exact Nat.log2_self_le hn
    calc
      2 ^ 52 ≤ n / 2 ^ (Nat.log2 n - 52) := (Nat.le_div_iff_mul_le (Nat.two_pow_pos _)).mpr hle
      _ ≤ divNearestEven n _ := le_divNearestEven _ _

theorem magnitudeOfUnits_mono {m n : Nat} (h : m ≤ n) :
    magnitudeOfUnits m 1 ≤ magnitudeOfUnits n 1 := by
  have hshift : Nat.log2 m - 52 ≤ Nat.log2 n - 52 := Nat.sub_le_sub_right (log2_mono h) 52
  simp only [magnitudeOfUnits, Nat.div_one, Nat.one_mul, Nat.pow_eq]
  refine min_le_min_right _ ?_
  rcases Nat.lt_or_eq_of_le hshift with hlt | heq
  · have hm := (divNearestEven_significand m).1
    have hn := (divNearestEven_significand n).2 (by omega)
    omega
  · rw [heq]
    exact Nat.add_le_add_left (divNearestEven_mono _ h) _

theorem place_ofUnits (n : Int) :
    (ofUnits n).place = if n < 0 then -(magnitudeOfUnits n.natAbs 1 : Int)
      else magnitudeOfUnits n.natAbs 1 := by
  rw [place, negative_ofUnits, magnitude_ofUnits]
  simp only [decide_eq_true_eq]

theorem place_ofUnits_mono {m n : Int} (h : m ≤ n) : (ofUnits m).place ≤ (ofUnits n).place := by
  rw [place_ofUnits, place_ofUnits]
  split_ifs with hm hn hn
  · have habs := magnitudeOfUnits_mono (show n.natAbs ≤ m.natAbs by omega)
    omega
  · omega
  · omega
  · have habs := magnitudeOfUnits_mono (show m.natAbs ≤ n.natAbs by omega)
    omega

theorem place_ofInt_mono {m n : Int} (h : m ≤ n) : (ofInt m).place ≤ (ofInt n).place :=
  place_ofUnits_mono (Int.mul_le_mul_of_nonneg_right h (Int.natCast_nonneg _))

theorem place_ofInt_inj {m n : Int} : (ofInt m).place = (ofInt n).place ↔ ofInt m = ofInt n := by
  constructor
  · exact eq_of_place (magnitude_pos_of_negative m) (magnitude_pos_of_negative n)
  · intro h
    rw [h]

/-- Doubles of integers compare as the integers do unless they are the same double. -/
theorem compare?_ofInt (m n : Int) :
    (ofInt m).compare? (ofInt n) =
      some (if ofInt m = ofInt n then .eq else Order.integers m n) := by
  rw [compare?, isNaN_ofInt, isNaN_ofInt, Bool.or_self, if_neg Bool.false_ne_true]
  congr 1
  split_ifs with hsame
  · rw [hsame]
    exact ReflCmp.compare_self
  · have hplace : (ofInt m).place ≠ (ofInt n).place := mt place_ofInt_inj.mp hsame
    rcases Int.lt_trichotomy m n with hlt | rfl | hgt
    · have hlt' := (place_ofInt_mono hlt.le).lt_of_ne hplace
      rw [Order.integers_eq_lt.mpr hlt, Order.integers_eq_lt.mpr hlt']
    · exact absurd rfl hsame
    · have hgt' := (place_ofInt_mono hgt.le).lt_of_ne hplace.symm
      rw [OrientedCmp.gt_of_lt (Order.integers_eq_lt.mpr hgt),
        OrientedCmp.gt_of_lt (Order.integers_eq_lt.mpr hgt')]

theorem ofInt_eq_of_between {m n k : Int} (hmk : m ≤ k) (hkn : k ≤ n) (h : ofInt m = ofInt n) :
    ofInt m = ofInt k := by
  have hle := place_ofInt_mono hmk
  have hge := place_ofInt_mono hkn
  rw [← h] at hge
  exact place_ofInt_inj.mp (Int.le_antisymm hle hge)

theorem eq_of_ofInt_eq_of_lt {m n : Int} (hm : m.natAbs < 2 ^ 53) (h : ofInt m = ofInt n) :
    m = n := by
  by_cases hn : n.natAbs ≤ 2 ^ 53
  · exact ofInt_injective_of_le hm.le hn h
  · -- otherwise `2 ^ 53` with the sign of `n` lies between them and has a double of its own
    rcases Int.le_total 0 n with hpos | hneg
    · have hbetween := ofInt_eq_of_between (k := 2 ^ 53) (by omega) (by omega) h
      have hmn : m = 2 ^ 53 := ofInt_injective_of_le hm.le (Nat.le_refl _) hbetween
      omega
    · have hbetween := ofInt_eq_of_between (k := -2 ^ 53) (by omega) (by omega) h.symm
      have hmn : m = -2 ^ 53 := ofInt_injective_of_le hm.le (Nat.le_refl _) (h.trans hbetween)
      omega

end CrawlAudit.Binary64
