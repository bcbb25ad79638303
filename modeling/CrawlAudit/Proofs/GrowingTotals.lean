import CrawlAudit.Proofs.ComparedCells
import CrawlAudit.Proofs.DoubleSums
import CrawlAudit.Proofs.RunningSums

/-!
# Totals that grow

Cells that are not negative never take a sum below what it was, whether integers saturate, doubles
are rounded or the sum overflows. But an infinite total counts as nothing itself, so that the next
cell starts the sum anew.
-/

namespace CrawlAudit.Cell

/-- A truth value, an integer or a finite double that is not below zero. -/
def IsNonnegative : Cell → Prop
  | .bool _ => True
  | .int n => 0 ≤ n.toInt
  | .float x => x.isFinite = true ∧ 0 ≤ x.units
  | _ => False

instance (c : Cell) : Decidable c.IsNonnegative :=
  match c with
  | .bool _ => isTrue trivial
  | .int n => inferInstanceAs (Decidable (0 ≤ n.toInt))
  | .float x => inferInstanceAs (Decidable (x.isFinite = true ∧ 0 ≤ x.units))
  | .null | .text _ | .list _ => isFalse id

/-- A total is not below an earlier one: in the partial order, and if both are integers also as
integers. The partial order takes an integer and a double as doubles, so that the integer is
compared after it has been rounded: the double 2^53 is not below the integer 2^53 + 1. Null is no
number that a total could be below. -/
def IsAtLeast (total earlier : Cell) : Prop :=
  earlier = .null ∨
    (earlier.compare? total).any Ordering.isLE = true ∧
      ∀ m n, earlier = .int m → total = .int n → m ≤ n

/-- What a sum of cells that are not negative can be. -/
def IsGrown : Cell → Prop
  | .null => True
  | .int n => 0 ≤ n.toInt
  | .float x => x.isNaN = false ∧ 0 ≤ x.place
  | _ => False

theorem ofBool_nonneg (b : Bool) : 0 ≤ (ofBool b).toInt := by
  cases b <;> decide

variable {total c : Cell}

theorem IsNonnegative.isCountable (h : c.IsNonnegative) : c.isCountable = true := by
  cases c with
  | bool b => rfl
  | int n => rfl
  | float x => exact h.1
  | _ => exact h.elim

theorem IsNonnegative.asInteger (h : c.IsNonnegative) (hfloat : c.isFloat = false) :
    0 ≤ c.asInteger.toInt := by
  cases c with
  | bool b => exact ofBool_nonneg b
  | int n => exact h
  | float x => contradiction
  | _ => exact h.elim

theorem ofInt_toInt {n : Int64} (h : 0 ≤ n.toInt) :
    (Binary64.ofInt n.toInt).isFinite = true ∧ 0 ≤ (Binary64.ofInt n.toInt).units := by
  constructor
  · apply Binary64.isFinite_ofInt
    have hhigh := n.toInt_lt
    omega
  · rw [Binary64.units, Binary64.negative_ofInt, if_neg (by simpa using h)]
    exact Int.natCast_nonneg _

theorem IsNonnegative.asDouble (h : c.IsNonnegative) :
    c.asDouble.isFinite = true ∧ 0 ≤ c.asDouble.units := by
  cases c with
  | bool b => exact ofInt_toInt (ofBool_nonneg b)
  | int n => exact ofInt_toInt h
  | float x => exact h
  | _ => exact h.elim

theorem IsNonnegative.isGrown_counted (h : c.IsNonnegative) : c.counted.IsGrown := by
  cases c with
  | bool b => exact ofBool_nonneg b
  | int n => exact h
  | float x => exact ⟨Binary64.isNaN_of_isFinite h.1, Binary64.place_nonneg h.1 h.2⟩
  | _ => exact h.elim

theorem le_saturatingAdd (m : Int64) {n : Int64} (h : 0 ≤ n.toInt) : m ≤ saturatingAdd m n := by
  have hle : Int64.ofIntClamp m.toInt ≤ saturatingAdd m n := by
    apply ofIntClamp_mono
    omega
  rwa [Int64.ofIntClamp_toInt] at hle

theorem any_isLE_compare? {earlier : Cell} {x y : Binary64} (hx : earlier.number? = some x)
    (hy : total.number? = some y) (hxnan : x.isNaN = false) (hynan : y.isNaN = false) :
    (earlier.compare? total).any Ordering.isLE = true ↔ x.place ≤ y.place := by
  rw [compare?_number hx hy, Binary64.compare?, hxnan, hynan]
  exact Order.isLE_integers

theorem isGrown_float_add {earlier : Cell} {x y : Binary64} (hearlier : earlier.number? = some x)
    (hx : x.isFinite = true) (hplace : 0 ≤ x.place) (hy : y.isFinite = true)
    (hunits : 0 ≤ y.units) :
    (Cell.float (x.add y)).IsGrown ∧ IsAtLeast (.float (x.add y)) earlier := by
  have hnan := Binary64.isNaN_add hx hy
  have hle := Binary64.place_le_place_add hx hy hunits
  refine ⟨⟨hnan, hplace.trans hle⟩, Or.inr ⟨?_, by nofun⟩⟩
  exact (any_isLE_compare? hearlier rfl (Binary64.isNaN_of_isFinite hx) hnan).mpr hle

theorem isGrown_int_add {m : Int64} (hm : 0 ≤ m.toInt) (hc : c.IsNonnegative) :
    ((Cell.int m).add c).IsGrown ∧ IsAtLeast ((Cell.int m).add c) (.int m) := by
  obtain ⟨hfinite, hunits⟩ := ofInt_toInt hm
  rw [add_eq_sumNumbers rfl hc.isCountable, sumNumbers_eq]
  cases hfloat : c.isFloat with
  | true =>
      obtain ⟨hcfinite, hcunits⟩ := hc.asDouble
      exact isGrown_float_add rfl hfinite (Binary64.place_nonneg hfinite hunits) hcfinite hcunits
  | false =>
      have hle := le_saturatingAdd m (hc.asInteger hfloat)
      have hle' := Int64.le_iff_toInt_le.mp hle
      refine ⟨hm.trans hle', Or.inr ⟨?_, ?_⟩⟩
      · apply (any_isLE_compare? rfl rfl (Binary64.isNaN_ofInt _) (Binary64.isNaN_ofInt _)).mpr
        exact Binary64.place_ofInt_mono hle'
      · intro m' n' hm' hn'
        cases hm'
        cases hn'
        exact hle

theorem float_add {x : Binary64} (hx : x.isFinite = true) (hc : c.IsNonnegative) :
    (Cell.float x).add c = .float (x.add c.asDouble) := by
  have htotal : (Cell.float x).isCountable = true := hx
  rw [add_eq_sumNumbers htotal hc.isCountable, sumNumbers_eq]
  rfl

/-- What one more cell does to a sum: unless the sum is infinite, it is kept. -/
theorem isGrown_add (htotal : total.IsGrown) (hc : c.IsNonnegative) :
    (total.add c).IsGrown ∧
      (total ≠ .float (.infinity false) → IsAtLeast (total.add c) total) ∧
      (total = .float (.infinity false) → total.add c = c.counted) := by
  cases total with
  | null =>
      rw [null_add hc.isCountable]
      exact ⟨hc.isGrown_counted, fun _ => Or.inl rfl, by nofun⟩
  | int m =>
      obtain ⟨hgrown, hle⟩ := isGrown_int_add htotal hc
      exact ⟨hgrown, fun _ => hle, by nofun⟩
  | float x =>
      obtain ⟨hnan, hplace⟩ := htotal
      cases hfinite : x.isFinite with
      | true =>
          obtain ⟨hcfinite, hcunits⟩ := hc.asDouble
          have hnumber : (Cell.float x).number? = some x := rfl
          obtain ⟨hgrown, hle⟩ := isGrown_float_add hnumber hfinite hplace hcfinite hcunits
          rw [float_add hfinite hc]
          refine ⟨hgrown, fun _ => hle, ?_⟩
          rintro ⟨⟩
          simp [show (Binary64.infinity false).isFinite = false by decide] at hfinite
      | false =>
          have htotal : (Cell.float x).isCountable = false := hfinite
          rw [add_of_not_isCountable htotal hc.isCountable]
          obtain rfl := Binary64.eq_infinity hfinite hnan hplace
          exact ⟨hc.isGrown_counted, fun hne => absurd rfl hne, fun _ => rfl⟩
  | bool b => exact htotal.elim
  | text s => exact htotal.elim
  | list items => exact htotal.elim

theorem isGrown_sum {cells : List Cell} (hcells : ∀ c ∈ cells, c.IsNonnegative) :
    (sum cells).IsGrown := by
  induction cells using List.reverseRecOn with
  | nil => trivial
  | append_singleton cells c ih =>
      obtain ⟨hcells, hc⟩ := List.forall_mem_append.mp hcells
      rw [sum_concat]
      exact (isGrown_add (ih hcells) (hc c (List.mem_singleton_self c))).1

theorem not_isAtLeast_infinity (hc : c.IsNonnegative) :
    ¬IsAtLeast c.counted (.float (.infinity false)) := by
  obtain ⟨hfinite, -⟩ := hc.asDouble
  have hnumber : c.counted.number? = some c.asDouble := by
    cases c <;> first | rfl | exact hc.elim
  rintro (hnull | ⟨hle, -⟩)
  · cases hnull
  · rw [any_isLE_compare? rfl hnumber (by decide) (Binary64.isNaN_of_isFinite hfinite)] at hle
    exact absurd hle (Int.not_le.mpr (Binary64.place_lt_infinity hfinite))

/-- A sum of cells that are not negative is after every cell at least what it was before, exactly
as long as it has not become infinite. An infinite sum starts anew with the next cell. -/
theorem isAtLeast_sum_take_iff {cells : List Cell} (hcells : ∀ c ∈ cells, c.IsNonnegative) {i : Nat}
    (hi : i < cells.length) :
    (IsAtLeast (sum (cells.take (i + 1))) (sum (cells.take i)) ↔
        sum (cells.take i) ≠ .float (.infinity false)) ∧
      (sum (cells.take i) = .float (.infinity false) →
        sum (cells.take (i + 1)) = cells[i].counted) := by
  have hfront : ∀ c ∈ cells.take i, c.IsNonnegative :=
    fun c hc => hcells c (List.mem_of_mem_take hc)
  have hc : cells[i].IsNonnegative := hcells _ (List.getElem_mem hi)
  obtain ⟨-, hkept, hanew⟩ := isGrown_add (isGrown_sum hfront) hc
  rw [List.take_succ_eq_append_getElem hi, sum_concat]
  refine ⟨⟨fun hle hinfinite => ?_, hkept⟩, hanew⟩
  rw [hanew hinfinite, hinfinite] at hle
  exact not_isAtLeast_infinity hc hle

/-- An integer that saturates, a double that takes it up, and a sum that overflows in the last
step. -/
theorem isAtLeast_sum_take_of_limits :
    let largest : Binary64 := ⟨0x7FEFFFFFFFFFFFFF⟩
    let cells : List Cell := [.int Int64.maxValue, .bool true, .float largest, .float largest]
    (∀ c ∈ cells, c.IsNonnegative) ∧ 3 < cells.length ∧
      sum (cells.take 2) = .int Int64.maxValue ∧
      sum (cells.take 4) = .float (.infinity false) ∧
      IsAtLeast (sum (cells.take 4)) (sum (cells.take 3)) := by
  intro largest cells
  have hcells : ∀ c ∈ cells, c.IsNonnegative := by decide +kernel
  have htaken : (Binary64.ofInt Int64.maxValue.toInt).add largest = largest := by decide +kernel
  have hoverflow : largest.add largest = .infinity false := by decide +kernel
  have hlargest : sum (cells.take 3) = .float largest := by
    change (Cell.int Int64.maxValue).add (.float largest) = _
    rw [add_eq_sumNumbers rfl (hcells _ (by simp [cells])).isCountable, sumNumbers_eq]
    exact congrArg Cell.float htaken
  have hinfinite : sum (cells.take 4) = .float (.infinity false) := by
    rw [show cells.take 4 = cells.take 3 ++ [.float largest] from rfl, sum_concat, hlargest,
      float_add (by decide +kernel) (by decide +kernel)]
    exact congrArg Cell.float hoverflow
  refine ⟨hcells, by decide, rfl, hinfinite, ?_⟩
  apply (isAtLeast_sum_take_iff hcells (by decide)).1.mpr
  rw [hlargest]
  intro h
  exact absurd (Cell.float.inj h) (by decide)

/-- The largest double twice is infinite, and one more cell makes the sum that cell. -/
theorem not_isAtLeast_sum_of_overflow :
    let largest : Binary64 := ⟨0x7FEFFFFFFFFFFFFF⟩
    let cells : List Cell := [.float largest, .float largest, .int 1]
    (∀ c ∈ cells, c.IsNonnegative) ∧ sum (cells.take 2) = .float (.infinity false) ∧
      sum (cells.take 3) = .int 1 ∧ ¬IsAtLeast (sum (cells.take 3)) (sum (cells.take 2)) := by
  intro largest cells
  have hoverflow : largest.add largest = .infinity false := by decide +kernel
  have hinfinite : sum (cells.take 2) = .float (.infinity false) := by
    change (Cell.float largest).add (.float largest) = _
    rw [float_add (by decide +kernel) (by decide +kernel)]
    exact congrArg Cell.float hoverflow
  have hone : sum (cells.take 3) = .int 1 := by
    rw [show cells.take 3 = cells.take 2 ++ [.int 1] from rfl, sum_concat, hinfinite]
    rfl
  refine ⟨by decide +kernel, hinfinite, hone, ?_⟩
  rw [hone, hinfinite]
  exact not_isAtLeast_infinity (c := .int 1) (by decide)

end CrawlAudit.Cell
