import CrawlAudit.Binary64.Basic
import CrawlAudit.Proofs.OrderLaws
import Mathlib.Algebra.Order.Group.Nat
import Mathlib.Data.Nat.Basic

/-!
# Integers as doubles

The double of an integer is a number other than negative zero, so that all orders and equalities
of doubles agree on such doubles. Integers of at most 53 bits have doubles of their own.
-/

namespace CrawlAudit.Binary64

theorem pow_63 : Nat.pow 2 63 = 9223372036854775808 :=
  rfl

theorem infinityMagnitude_eq : infinityMagnitude = 9218868437227405312 :=
  rfl

theorem eq_of_negative_magnitude {x y : Binary64} (hsign : x.negative = y.negative)
    (hmagnitude : x.magnitude = y.magnitude) : x = y := by
  have hx := x.bits.toNat_lt
  have hy := y.bits.toNat_lt
  rw [negative, negative, decide_eq_decide, pow_63] at hsign
  rw [magnitude, magnitude, pow_63] at hmagnitude
  have hbits : x.bits.toNat = y.bits.toNat := by omega
  exact congrArg Binary64.mk (UInt64.toNat_inj.mp hbits)

/-- There is one double at every place but that of zero. -/
theorem eq_of_place {x y : Binary64} (hx : x.negative = true → 0 < x.magnitude)
    (hy : y.negative = true → 0 < y.magnitude) (h : x.place = y.place) : x = y := by
  rw [place, place] at h
  cases hxs : x.negative with
  | false =>
      cases hys : y.negative with
      | false =>
          rw [hxs, hys] at h
          exact eq_of_negative_magnitude (hxs.trans hys.symm) (Int.ofNat_inj.mp h)
      | true =>
          have hpos := hy hys
          simp only [hxs, hys, if_true, Bool.false_eq_true, if_false] at h
          omega
  | true =>
      have hpos := hx hxs
      cases hys : y.negative with
      | false =>
          simp only [hxs, hys, if_true, Bool.false_eq_true, if_false] at h
          omega
      | true =>
          rw [hxs, hys] at h
          exact eq_of_negative_magnitude (hxs.trans hys.symm) (Int.ofNat_inj.mp (Int.neg_inj.mp h))

theorem toNat_bits_ofSignMagnitude (negative : Bool) {m : Nat} (h : m ≤ infinityMagnitude) :
    (ofSignMagnitude negative m).bits.toNat =
      if negative then 9223372036854775808 + m else m := by
  rw [infinityMagnitude_eq] at h
  have hsize : UInt64.size = 18446744073709551616 := rfl
  rw [ofSignMagnitude, infinityMagnitude_eq, Nat.min_eq_left h, pow_63]
  cases negative with
  | false =>
      simp only [Bool.false_eq_true, if_false]
      exact UInt64.toNat_ofNat_of_lt' (by omega)
  | true =>
      simp only [if_true]
      exact UInt64.toNat_ofNat_of_lt' (by omega)

theorem magnitude_ofSignMagnitude (negative : Bool) {m : Nat} (h : m ≤ infinityMagnitude) :
    (ofSignMagnitude negative m).magnitude = m := by
  have hm := infinityMagnitude_eq
  rw [magnitude, toNat_bits_ofSignMagnitude negative h, pow_63]
  split <;> omega

theorem negative_ofSignMagnitude (negative : Bool) {m : Nat} (h : m ≤ infinityMagnitude) :
    (ofSignMagnitude negative m).negative = negative := by
  have hm := infinityMagnitude_eq
  rw [Binary64.negative, toNat_bits_ofSignMagnitude negative h, pow_63]
  cases negative with
  | false =>
      simp only [Bool.false_eq_true, if_false, decide_eq_false_iff_not]
      omega
  | true => simp

theorem magnitudeOfUnits_le (num den : Nat) : magnitudeOfUnits num den ≤ infinityMagnitude :=
  Nat.min_le_right _ _

theorem divNearestEven_mul {q den : Nat} (h : 0 < den) : divNearestEven (q * den) den = q := by
  simp [divNearestEven, Nat.mul_div_cancel q h, h]

theorem divNearestEven_one (q : Nat) : divNearestEven q 1 = q := by
  simpa using divNearestEven_mul (q := q) Nat.one_pos

theorem magnitudeOfUnits_pos {num : Nat} (h : 0 < num) : 0 < magnitudeOfUnits num 1 := by
  have hinf : 0 < infinityMagnitude := by decide
  rw [magnitudeOfUnits, Nat.div_one, Nat.one_mul]
  refine Nat.lt_min.mpr ⟨?_, hinf⟩
  rcases Nat.eq_zero_or_pos (Nat.log2 num - 52) with hzero | hpos
  · rw [hzero]
    change 0 < 0 * Nat.pow 2 52 + divNearestEven num 1
    rw [divNearestEven_one, Nat.zero_mul, Nat.zero_add]
    exact h
  · have hpow : 0 < Nat.pow 2 52 := Nat.two_pow_pos 52
    exact Nat.add_pos_left (Nat.mul_pos hpos hpow) _

theorem magnitudeOfUnits_mul_pow {q shift : Nat} (hlow : 2 ^ 52 ≤ q) (hhigh : q < 2 ^ 53)
    (hshift : shift ≤ 2045) : magnitudeOfUnits (q * 2 ^ shift) 1 = shift * 2 ^ 52 + q := by
  have hlog : Nat.log2 (q * 2 ^ shift) = 52 + shift := by
    have hpos : 0 < 2 ^ shift := Nat.two_pow_pos shift
    have hne : q * 2 ^ shift ≠ 0 := (Nat.mul_pos (by omega) hpos).ne'
    refine (Nat.log2_eq_iff hne).mpr ⟨?_, ?_⟩
    · rw [Nat.pow_add]
      exact Nat.mul_le_mul_right _ hlow
    · rw [show 52 + shift + 1 = 53 + shift by omega, Nat.pow_add]
      exact Nat.mul_lt_mul_of_pos_right hhigh hpos
  rw [magnitudeOfUnits, Nat.div_one, Nat.one_mul, hlog, Nat.add_sub_cancel_left]
  change min (shift * 2 ^ 52 + divNearestEven (q * 2 ^ shift) (2 ^ shift)) infinityMagnitude = _
  rw [divNearestEven_mul (Nat.two_pow_pos shift), Nat.min_eq_left]
  rw [infinityMagnitude_eq]
  omega

theorem exists_significand {k e : Nat} (hpos : 0 < k) (hle : k ≤ 2 ^ 53) (he : 52 ≤ e) :
    ∃ q shift, k * 2 ^ e = q * 2 ^ shift ∧ 2 ^ 52 ≤ q ∧ q < 2 ^ 53 ∧ shift ≤ e + 1 := by
  rcases Nat.lt_or_eq_of_le hle with hlt | rfl
  · have hlog : Nat.log2 k ≤ 52 := Nat.lt_succ_iff.mp ((Nat.log2_lt hpos.ne').mpr hlt)
    have hlow := Nat.log2_self_le hpos.ne'
    have hhigh : k < 2 ^ (Nat.log2 k + 1) := Nat.lt_log2_self
    refine ⟨k * 2 ^ (52 - Nat.log2 k), e - 52 + Nat.log2 k, ?_, ?_, ?_, by omega⟩
    · rw [Nat.mul_assoc, ← Nat.pow_add]
      congr 2
      omega
    · calc
        2 ^ 52 = 2 ^ Nat.log2 k * 2 ^ (52 - Nat.log2 k) := by
          rw [← Nat.pow_add]
          congr 1
          omega
        _ ≤ k * 2 ^ (52 - Nat.log2 k) := Nat.mul_le_mul_right _ hlow
    · calc
        k * 2 ^ (52 - Nat.log2 k) < 2 ^ (Nat.log2 k + 1) * 2 ^ (52 - Nat.log2 k) :=
          Nat.mul_lt_mul_of_pos_right hhigh (Nat.two_pow_pos _)
        _ = 2 ^ 53 := by
          rw [← Nat.pow_add]
          congr 1
          omega
  · refine ⟨2 ^ 52, e + 1, ?_, Nat.le_refl _, by decide, Nat.le_refl _⟩
    rw [← Nat.pow_add, ← Nat.pow_add]
    congr 1
    omega

theorem exists_unitsPerOne_eq : ∃ e, 52 ≤ e ∧ e ≤ 1074 ∧ unitsPerOne = Nat.pow 2 e := by
  refine ⟨1074, by decide, Nat.le_refl _, ?_⟩
  unfold unitsPerOne
  exact Eq.refl _

theorem unitsPerOne_pos : 0 < unitsPerOne := by
  obtain ⟨e, -, -, heq⟩ := exists_unitsPerOne_eq
  rw [heq]
  exact Nat.two_pow_pos e

theorem exists_significand_units {k : Nat} (hpos : 0 < k) (hle : k ≤ 2 ^ 53) :
    ∃ q shift, k * unitsPerOne = q * 2 ^ shift ∧ 2 ^ 52 ≤ q ∧ q < 2 ^ 53 ∧ shift ≤ 2045 := by
  obtain ⟨e, hlow, hhigh, heq⟩ := exists_unitsPerOne_eq
  obtain ⟨q, shift, hq, hqlow, hqhigh, hshift⟩ := exists_significand hpos hle hlow
  refine ⟨q, shift, ?_, hqlow, hqhigh, by omega⟩
  rw [heq, Nat.pow_eq, hq]

theorem magnitudeOfUnits_injective {j k : Nat} (hj : j ≤ 2 ^ 53) (hk : k ≤ 2 ^ 53)
    (h : magnitudeOfUnits (j * unitsPerOne) 1 = magnitudeOfUnits (k * unitsPerOne) 1) :
    j = k := by
  have hzero : magnitudeOfUnits (0 * unitsPerOne) 1 = 0 := by
    rw [Nat.zero_mul]
    rfl
  rcases Nat.eq_zero_or_pos j with rfl | hjpos
  · rcases Nat.eq_zero_or_pos k with rfl | hkpos
    · rfl
    · have hpos := magnitudeOfUnits_pos (Nat.mul_pos hkpos unitsPerOne_pos)
      rw [← h, hzero] at hpos
      exact absurd hpos (Nat.lt_irrefl 0)
  · rcases Nat.eq_zero_or_pos k with rfl | hkpos
    · have hpos := magnitudeOfUnits_pos (Nat.mul_pos hjpos unitsPerOne_pos)
      rw [h, hzero] at hpos
      exact absurd hpos (Nat.lt_irrefl 0)
    · obtain ⟨q, shift, hjeq, hqlow, hqhigh, hshift⟩ := exists_significand_units hjpos hj
      obtain ⟨q', shift', hkeq, hqlow', hqhigh', hshift'⟩ := exists_significand_units hkpos hk
      rw [hjeq, hkeq, magnitudeOfUnits_mul_pow hqlow hqhigh hshift,
        magnitudeOfUnits_mul_pow hqlow' hqhigh' hshift'] at h
      have hsame : shift = shift' ∧ q = q' := by omega
      rw [hsame.1, hsame.2, ← hkeq] at hjeq
      exact Nat.eq_of_mul_eq_mul_right unitsPerOne_pos hjeq

section OfInt

variable (n : Int)

theorem magnitude_ofUnits : (ofUnits n).magnitude = magnitudeOfUnits n.natAbs 1 :=
  magnitude_ofSignMagnitude _ (magnitudeOfUnits_le _ _)

theorem negative_ofUnits : (ofUnits n).negative = decide (n < 0) :=
  negative_ofSignMagnitude _ (magnitudeOfUnits_le _ _)

theorem magnitude_ofInt : (ofInt n).magnitude = magnitudeOfUnits (n.natAbs * unitsPerOne) 1 := by
  rw [ofInt, magnitude_ofUnits, Int.natAbs_mul, Int.natAbs_natCast]

theorem negative_ofInt : (ofInt n).negative = decide (n < 0) := by
  have hunits : (0 : Int) < unitsPerOne := Int.ofNat_lt.mpr unitsPerOne_pos
  rw [ofInt, negative_ofUnits, decide_eq_decide]
  constructor
  · intro h
    by_contra hnot
    exact absurd (Int.mul_nonneg (Int.not_lt.mp hnot) hunits.le) (Int.not_le.mpr h)
  · intro h
    exact Int.mul_neg_of_neg_of_pos h hunits

theorem isNaN_ofUnits : (ofUnits n).isNaN = false := by
  rw [isNaN, magnitude_ofUnits, decide_eq_false_iff_not, Nat.not_lt]
  exact magnitudeOfUnits_le _ _

theorem isNaN_ofInt : (ofInt n).isNaN = false :=
  isNaN_ofUnits _

theorem magnitude_pos_of_negative (h : (ofInt n).negative = true) : 0 < (ofInt n).magnitude := by
  rw [negative_ofInt, decide_eq_true_eq] at h
  have habs : 0 < n.natAbs := by omega
  rw [magnitude_ofInt]
  exact magnitudeOfUnits_pos (Nat.mul_pos habs unitsPerOne_pos)

end OfInt

theorem sameNumber_ofInt {m n : Int} :
    (ofInt m).sameNumber (ofInt n) = true ↔ ofInt m = ofInt n := by
  rw [sameNumber, compare?, isNaN_ofInt, isNaN_ofInt, decide_eq_true_eq]
  simp only [Bool.or_self, Bool.false_eq_true, if_false, Option.some_inj]
  constructor
  · intro h
    exact eq_of_place (magnitude_pos_of_negative m) (magnitude_pos_of_negative n)
      (Std.LawfulEqCmp.eq_of_compare h)
  · intro h
    rw [h]
    exact Std.ReflCmp.compare_self

theorem ofInt_injective_of_le {m n : Int} (hm : m.natAbs ≤ 2 ^ 53) (hn : n.natAbs ≤ 2 ^ 53)
    (h : ofInt m = ofInt n) : m = n := by
  have hmagnitude := congrArg magnitude h
  have hsign := congrArg negative h
  rw [magnitude_ofInt, magnitude_ofInt] at hmagnitude
  rw [negative_ofInt, negative_ofInt, decide_eq_decide] at hsign
  have habs : m.natAbs = n.natAbs := magnitudeOfUnits_injective hm hn hmagnitude
  omega

end CrawlAudit.Binary64
