import CrawlAudit.Proofs.ComparedCells
import CrawlAudit.Proofs.IntegerRounding

/-!
# Tests on integers

An integer cell is compared with an integer by their doubles. Tests take integers of one double for
equal and are exact on all others, in particular where one of the two has less than 53 bits.
-/

namespace CrawlAudit

namespace Cell

/-- Two integers that round to one double. -/
def SameDouble (c v : Int64) : Prop :=
  Binary64.ofInt c.toInt = Binary64.ofInt v.toInt

variable {c v : Int64}

theorem looselySame_int_iff : (Cell.int c).looselySame (.int v) = true ↔ SameDouble c v :=
  Binary64.sameNumber_ofInt

theorem compare?_int_of_same (h : SameDouble c v) :
    (Cell.int c).compare? (.int v) = some .eq := by
  rw [compare?_number rfl rfl, Binary64.compare?_ofInt]
  exact congrArg some (if_pos h)

theorem compare?_int_of_not_same (h : ¬SameDouble c v) :
    (Cell.int c).compare? (.int v) = some (Order.integers c.toInt v.toInt) := by
  rw [compare?_number rfl rfl, Binary64.compare?_ofInt]
  exact congrArg some (if_neg h)

theorem sameDouble_iff_eq (h : c.toInt.natAbs < 2 ^ 53 ∨ v.toInt.natAbs < 2 ^ 53 ∨
    c.toInt.natAbs ≤ 2 ^ 53 ∧ v.toInt.natAbs ≤ 2 ^ 53) : SameDouble c v ↔ c = v := by
  constructor
  · intro hsame
    apply Int64.toInt_inj.mp
    rcases h with hc | hv | ⟨hc, hv⟩
    · exact Binary64.eq_of_ofInt_eq_of_lt hc hsame
    · exact (Binary64.eq_of_ofInt_eq_of_lt hv hsame.symm).symm
    · exact Binary64.ofInt_injective_of_le hc hv hsame
  · rintro rfl
    rfl

end Cell

namespace FilterLeaf

variable {c v : Int64} {orders : List Ordering}

theorem orderTest_int_of_same (h : Cell.SameDouble c v) :
    orderTest orders (.int c) (.int v) = orders.contains .eq := by
  rw [orderTest, Cell.compare?_int_of_same h]

theorem orderTest_int_of_not_same (h : ¬Cell.SameDouble c v) :
    orderTest orders (.int c) (.int v) = orders.contains (Order.integers c.toInt v.toInt) := by
  rw [orderTest, Cell.compare?_int_of_not_same h]

theorem orderTests_int :
    (orderTest [.gt] (.int c) (.int v) = true ↔ v < c ∧ ¬Cell.SameDouble c v) ∧
      (orderTest [.gt, .eq] (.int c) (.int v) = true ↔ v ≤ c ∨ Cell.SameDouble c v) ∧
      (orderTest [.lt] (.int c) (.int v) = true ↔ c < v ∧ ¬Cell.SameDouble c v) ∧
      (orderTest [.lt, .eq] (.int c) (.int v) = true ↔ c ≤ v ∨ Cell.SameDouble c v) := by
  by_cases hsame : Cell.SameDouble c v
  · simp [orderTest_int_of_same hsame, hsame]
  · have hne : c.toInt ≠ v.toInt := fun h => hsame (congrArg Binary64.ofInt h)
    simp only [orderTest_int_of_not_same hsame, Int64.lt_iff_toInt_lt, Int64.le_iff_toInt_le]
    rcases Int.lt_or_gt_of_ne hne with hlt | hgt
    · rw [Order.integers_eq_lt.mpr hlt]
      simp [hsame, hlt, hlt.le, not_lt.mpr hlt.le]
    · rw [Std.OrientedCmp.gt_of_lt (Order.integers_eq_lt.mpr hgt)]
      simp [hsame, hgt, hgt.le, not_lt.mpr hgt.le]

/-- A test on an integer cell takes integers of one double for equal and goes by the order of
integers otherwise. Integers are told apart where one of them has less than 53 bits. -/
theorem matchesCell_int (field : String) (c v : Int64) :
    let holds (p : Predicate) (value : Cell) : Prop :=
      (positive field p value).matchesCell (.int c) = true
    (holds .eq (.int v) ↔ Cell.SameDouble c v) ∧
      (holds .among (.list [.int v]) ↔ Cell.SameDouble c v) ∧
      (holds .gt (.int v) ↔ v < c ∧ ¬Cell.SameDouble c v) ∧
      (holds .gte (.int v) ↔ v ≤ c ∨ Cell.SameDouble c v) ∧
      (holds .lt (.int v) ↔ c < v ∧ ¬Cell.SameDouble c v) ∧
      (holds .lte (.int v) ↔ c ≤ v ∨ Cell.SameDouble c v) ∧
      (c.toInt.natAbs < 2 ^ 53 ∨ v.toInt.natAbs < 2 ^ 53 ∨
          c.toInt.natAbs ≤ 2 ^ 53 ∧ v.toInt.natAbs ≤ 2 ^ 53 →
        (Cell.SameDouble c v ↔ c = v)) := by
  intro holds
  obtain ⟨hgt, hgte, hlt, hlte⟩ := orderTests_int (c := c) (v := v)
  have hamong : amongTest (.int c) (.list [.int v]) = (Cell.int c).looselySame (.int v) := by
    simp [amongTest]
  simp only [holds, matchesCell_positive]
  refine ⟨Cell.looselySame_int_iff, ?_, hgt, hgte, hlt, hlte, Cell.sameDouble_iff_eq⟩
  rw [← Cell.looselySame_int_iff, ← hamong]
  rfl

theorem matchesCell_int_of_large_cell :
    let c : Int64 := 9223372036854775807
    let v : Int64 := 9007199254740991
    v.toInt.natAbs < 2 ^ 53 ∧ ¬Cell.SameDouble c v ∧
      (positive "id" .gt (.int v)).matchesCell (.int c) = true ∧
      (positive "id" .among (.list [.int v])).matchesCell (.int c) = false := by
  intro c v
  have hv : v.toInt.natAbs < 2 ^ 53 := by decide
  obtain ⟨-, hamong, hgt, -, -, -, hexact⟩ := matchesCell_int "id" c v
  have hne : ¬Cell.SameDouble c v := mt (hexact (Or.inr (Or.inl hv))).mp (by decide)
  exact ⟨hv, hne, hgt.mpr ⟨by decide, hne⟩, Bool.eq_false_iff.mpr (mt hamong.mp hne)⟩

/-- Two neighbouring integers of one double. -/
theorem not_matchesCell_exactly_of_rounded_cell :
    let c : Int64 := 9007199254740993
    let v : Int64 := 9007199254740992
    ¬((positive "id" .eq (.int v)).matchesCell (.int c) = true ↔ c = v) ∧
      ¬((positive "id" .among (.list [.int v])).matchesCell (.int c) = true ↔ c = v) ∧
      ¬((positive "id" .gt (.int v)).matchesCell (.int c) = true ↔ v < c) ∧
      ¬((positive "id" .lte (.int v)).matchesCell (.int c) = true ↔ c ≤ v) := by
  decide +kernel

end FilterLeaf

end CrawlAudit
