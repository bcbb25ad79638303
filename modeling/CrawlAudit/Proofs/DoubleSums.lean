import CrawlAudit.Proofs.IntegerRounding
import CrawlAudit.Proofs.ShownCounts

/-!
# Sums of doubles

A finite double is the rounding of its own units, and rounding keeps the order. So a sum of two
finite doubles stands where its exact value is rounded to, and a summand that is not negative never
takes a sum below the other summand, even where it overflows.
-/

namespace CrawlAudit.Binary64

theorem magnitudeOfUnits_zero : magnitudeOfUnits 0 1 = 0 := by
  decide

theorem magnitudeOfUnits_of_lt {m : Nat} (h : m < 2 ^ 52) : magnitudeOfUnits m 1 = m := by
  have hlog : Nat.log2 m - 52 = 0 := by
    rcases Nat.eq_zero_or_pos m with rfl | hpos
    · rfl
    · have hlt := (Nat.log2_lt hpos.ne').mpr h
      omega
  simp only [magnitudeOfUnits, Nat.div_one, hlog, Nat.pow_eq, Nat.pow_zero, Nat.mul_one,
    divNearestEven_one, Nat.zero_mul, Nat.zero_add]
  rw [infinityMagnitude_eq]
  omega

theorem magnitudeOfUnits_unitsOfMagnitude {m : Nat} (h : m < infinityMagnitude) :
    magnitudeOfUnits (unitsOfMagnitude m) 1 = m := by
  rw [infinityMagnitude_eq] at h
  simp only [unitsOfMagnitude, Nat.pow_eq]
  split_ifs with hexponent
  · apply magnitudeOfUnits_of_lt
    omega
  · rw [magnitudeOfUnits_mul_pow (by omega) (by omega) (by omega)]
    omega

theorem isFinite_ofInt {n : Int} (h : n.natAbs ≤ 2 ^ 63) : (ofInt n).isFinite = true := by
  obtain ⟨e, -, he, heq⟩ := exists_unitsPerOne_eq
  have hpow : 2 ^ 63 * unitsPerOne = 2 ^ 52 * 2 ^ (11 + e) := by
    rw [heq, Nat.pow_eq, ← Nat.pow_add, ← Nat.pow_add, ← Nat.add_assoc]
  have hle := magnitudeOfUnits_mono (Nat.mul_le_mul_right unitsPerOne h)
  rw [hpow, magnitudeOfUnits_mul_pow (Nat.le_refl _) (by decide) (by omega)] at hle
  rw [isFinite, magnitude_ofInt, decide_eq_true_eq, infinityMagnitude_eq]
  omega

section

variable {x y : Binary64}

theorem magnitude_lt_of_isFinite (hx : x.isFinite = true) : x.magnitude < infinityMagnitude :=
  of_decide_eq_true hx

theorem isNaN_of_isFinite (hx : x.isFinite = true) : x.isNaN = false := by
  have hlt := magnitude_lt_of_isFinite hx
  rw [isNaN, decide_eq_false_iff_not]
  omega

theorem place_ofUnits_units (hx : x.isFinite = true) : (ofUnits x.units).place = x.place := by
  have hmagnitude := magnitudeOfUnits_unitsOfMagnitude (magnitude_lt_of_isFinite hx)
  have habs : x.units.natAbs = unitsOfMagnitude x.magnitude := by
    rw [units]
    split_ifs <;> omega
  rw [place_ofUnits, habs, hmagnitude, place, units]
  cases x.negative with
  | false =>
      simp only [Bool.false_eq_true, if_false]
      rw [if_neg (by omega)]
  | true =>
      simp only [if_true]
      split_ifs with hneg
      · rfl
      · -- only the negative zero has no negative units
        have hzero : unitsOfMagnitude x.magnitude = 0 := by omega
        rw [hzero, magnitudeOfUnits_zero] at hmagnitude
        omega

theorem add_of_isFinite (hx : x.isFinite = true) (hy : y.isFinite = true) :
    x.add y = if x.units + y.units = 0 then ofSignMagnitude (x.negative && y.negative) 0
      else ofUnits (x.units + y.units) := by
  simp only [add, isNaN_of_isFinite hx, isNaN_of_isFinite hy, hx, hy, Bool.or_self,
    Bool.false_eq_true, if_false, if_true]

theorem place_ofSignMagnitude_zero (negative : Bool) :
    (ofSignMagnitude negative 0).place = 0 := by
  cases negative <;> decide

theorem place_add (hx : x.isFinite = true) (hy : y.isFinite = true) :
    (x.add y).place = (ofUnits (x.units + y.units)).place := by
  rw [add_of_isFinite hx hy]
  split_ifs with hzero
  · rw [hzero, place_ofSignMagnitude_zero]
    decide
  · rfl

theorem isNaN_add (hx : x.isFinite = true) (hy : y.isFinite = true) :
    (x.add y).isNaN = false := by
  rw [add_of_isFinite hx hy]
  split_ifs
  · cases x.negative && y.negative <;> decide
  · exact isNaN_ofUnits _

theorem place_le_place_add (hx : x.isFinite = true) (hy : y.isFinite = true)
    (h : 0 ≤ y.units) : x.place ≤ (x.add y).place := by
  rw [place_add hx hy, ← place_ofUnits_units hx]
  apply place_ofUnits_mono
  omega

theorem place_nonneg (hx : x.isFinite = true) (h : 0 ≤ x.units) : 0 ≤ x.place := by
  have hzero : (ofUnits 0).place = 0 := by decide
  rw [← place_ofUnits_units hx, ← hzero]
  exact place_ofUnits_mono h

theorem eq_infinity (hfinite : x.isFinite = false) (hnan : x.isNaN = false)
    (hplace : 0 ≤ x.place) : x = infinity false := by
  rw [isFinite, decide_eq_false_iff_not] at hfinite
  rw [isNaN, decide_eq_false_iff_not] at hnan
  have hmagnitude : x.magnitude = infinityMagnitude := by omega
  have hsign : x.negative = false := by
    cases hneg : x.negative with
    | false => rfl
    | true =>
        rw [place, hneg, if_pos rfl, hmagnitude, infinityMagnitude_eq] at hplace
        omega
  apply eq_of_negative_magnitude
  · rw [hsign, infinity, negative_ofSignMagnitude _ (Nat.le_refl _)]
  · rw [hmagnitude, infinity, magnitude_ofSignMagnitude _ (Nat.le_refl _)]

theorem place_lt_infinity (hx : x.isFinite = true) : x.place < (infinity false).place := by
  have hlt := magnitude_lt_of_isFinite hx
  have hinfinity : (infinity false).place = infinityMagnitude := by decide
  rw [hinfinity, place]
  split_ifs <;> omega

end

end CrawlAudit.Binary64
