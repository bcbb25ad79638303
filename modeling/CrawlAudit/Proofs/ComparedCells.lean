import CrawlAudit.Filter.Basic
import CrawlAudit.Proofs.IntegerDoubles
import CrawlAudit.Store.Database

/-!
# Equality and order of compared cells

A test by equality on a cell that the partial order compares with the value of the test, against
the two tests by order that both hold for equal cells. A truth value counts as a number in the
order only, so it equals no number.
-/

namespace CrawlAudit

namespace Cell

def isBool : Cell → Bool
  | .bool _ => true
  | _ => false

variable {c v : Cell} {x y : Binary64}

theorem kinds_of_isSome_compare? (h : (c.compare? v).isSome) :
    (∃ s t, c = .text s ∧ v = .text t) ∨ ∃ x y, c.number? = some x ∧ v.number? = some y := by
  cases c <;> cases v <;> simp_all [compare?, number?]

theorem compare?_number (hc : c.number? = some x) (hv : v.number? = some y) :
    c.compare? v = x.compare? y := by
  cases c <;> cases v <;> simp_all [compare?, number?]

theorem sameNumber_ofBool (a b : Bool) :
    (Binary64.ofInt (ofBool a).toInt).sameNumber (Binary64.ofInt (ofBool b).toInt) = (a == b) := by
  have hbits : ∀ t : Bool, (ofBool t).toInt.natAbs ≤ 2 ^ 53 := by decide
  have hinjective : ∀ a b : Bool, (ofBool a).toInt = (ofBool b).toInt → a = b := by decide
  rw [Bool.eq_iff_iff, Binary64.sameNumber_ofInt, beq_iff_eq]
  constructor
  · intro h
    exact hinjective a b (Binary64.ofInt_injective_of_le (hbits a) (hbits b) h)
  · rintro rfl
    rfl

theorem looselySame_number (hc : c.number? = some x) (hv : v.number? = some y)
    (hbool : c.isBool = v.isBool) : c.looselySame v = x.sameNumber y := by
  cases c with
  | bool a =>
      cases v with
      | bool b =>
          cases hc
          cases hv
          exact (sameNumber_ofBool a b).symm
      | _ => contradiction
  | _ => cases v <;> simp_all [looselySame, same, number?, isBool]

theorem looselySame_of_isBool_ne (h : c.isBool ≠ v.isBool) : c.looselySame v = false := by
  cases c <;> cases v <;> simp_all [looselySame, same, isBool]

theorem looselySame_iff_compare? (h : (c.compare? v).isSome) :
    c.looselySame v = true ↔ c.compare? v = some .eq ∧ c.isBool = v.isBool := by
  by_cases hbool : c.isBool = v.isBool
  · rw [and_iff_left hbool]
    rcases kinds_of_isSome_compare? h with ⟨s, t, rfl, rfl⟩ | ⟨x, y, hc, hv⟩
    · rw [compare?, Option.some_inj, Std.LawfulEqCmp.compare_eq_iff_eq]
      exact beq_iff_eq
    · rw [looselySame_number hc hv hbool, compare?_number hc hv, Binary64.sameNumber,
        decide_eq_true_eq]
  · rw [looselySame_of_isBool_ne hbool]
    simp [hbool]

end Cell

namespace FilterLeaf

/-- A test that is not negated. -/
def positive (field : String) (predicate : Predicate) (value : Cell) : FilterLeaf :=
  ⟨field, predicate, value, false, none⟩

theorem matchesCell_positive (field : String) (p : Predicate) (value cell : Cell) :
    (positive field p value).matchesCell cell = (positive field p value).holds cell := by
  rw [matchesCell]
  exact Bool.bne_false _

theorem orderTest_and_orderTest_iff {cell value : Cell} :
    (orderTest [.gt, .eq] cell value = true ∧ orderTest [.lt, .eq] cell value = true) ↔
      cell.compare? value = some .eq := by
  rw [orderTest, orderTest]
  cases cell.compare? value with
  | none => simp
  | some o => cases o <;> decide

/-- On a cell that compares with the value, a test by equality matches exactly when both tests by
order do and the cell and the value are either both truth values or neither. -/
theorem matchesCell_eq_iff_gte_and_lte (field : String) {cell value : Cell}
    (h : (cell.compare? value).isSome) :
    (positive field .eq value).matchesCell cell = true ↔
      ((positive field .gte value).matchesCell cell = true ∧
        (positive field .lte value).matchesCell cell = true) ∧ cell.isBool = value.isBool := by
  rw [matchesCell_positive, matchesCell_positive, matchesCell_positive]
  change cell.looselySame value = true ↔ (orderTest [.gt, .eq] cell value = true ∧
    orderTest [.lt, .eq] cell value = true) ∧ cell.isBool = value.isBool
  rw [orderTest_and_orderTest_iff, Cell.looselySame_iff_compare? h]

theorem matchesCell_eq_iff_gte_and_lte_of_rounded_integer :
    let cell := Cell.int 9007199254740993
    let value := Cell.float (Binary64.ofInt 9007199254740992)
    (cell.compare? value).isSome = true ∧
      (positive "index" .gte value).matchesCell cell = true ∧
      (positive "index" .lte value).matchesCell cell = true ∧
      (positive "index" .eq value).matchesCell cell = true := by
  intro cell value
  have hcompare : cell.compare? value = some .eq := by decide +kernel
  have hsome : (cell.compare? value).isSome = true := by rw [hcompare]; rfl
  have horders := orderTest_and_orderTest_iff.mpr hcompare
  have hgte : (positive "index" .gte value).matchesCell cell = true := by
    rw [matchesCell_positive]
    exact horders.1
  have hlte : (positive "index" .lte value).matchesCell cell = true := by
    rw [matchesCell_positive]
    exact horders.2
  exact ⟨hsome, hgte, hlte, (matchesCell_eq_iff_gte_and_lte "index" hsome).mpr ⟨⟨hgte, hlte⟩, rfl⟩⟩

/-- A truth value that a database keeps as an integer is not matched by the test whether it equals
the truth value, though it compares as equal with it. -/
theorem not_matchesCell_eq_of_stored_bool :
    let cell := StoredValue.toCell (.integer (Cell.ofBool true))
    let value := Cell.ofJson (.bool true)
    (cell.compare? value).isSome = true ∧
      ¬((positive "index" .eq value).matchesCell cell = true ↔
        (positive "index" .gte value).matchesCell cell = true ∧
          (positive "index" .lte value).matchesCell cell = true) := by
  have hvalue : Cell.ofJson (.bool true) = .bool true := by rw [Cell.ofJson]
  rw [hvalue]
  decide +kernel

end FilterLeaf

end CrawlAudit
