import CrawlAudit.Cell.Sum
import CrawlAudit.Query.Catalog
import Mathlib.Algebra.Order.BigOperators.Group.List
import Mathlib.Algebra.Order.Ring.Int
import Mathlib.Algebra.Order.Ring.Nat
import Mathlib.Data.List.Induction

/-!
# Sums without doubles

Where no double occurs and the absolute values stay within 64 bits together, nothing saturates: a
sum of cells is the sum of their integers, in whatever order they come and whatever else stands
between them.
-/

namespace CrawlAudit.Cell

/-- What a cell other than a double counts in a sum. -/
def amount : Cell → Int
  | .bool b => (ofBool b).toInt
  | .int n => n.toInt
  | _ => 0

def isFloat : Cell → Bool
  | .float _ => true
  | _ => false

def isList : Cell → Bool
  | .list _ => true
  | _ => false

/-- The sum of the absolute values of some cells. -/
def absoluteSum (cells : List Cell) : Nat :=
  (cells.map fun c => c.amount.natAbs).sum

/-- There are no doubles among some cells, and their absolute values sum to a 64 bit integer. -/
structure IsIntegral (cells : List Cell) : Prop where
  isFloat_eq_false : ∀ c ∈ cells, c.isFloat = false
  bounded : (absoluteSum cells : Int) ≤ Int64.maxValue.toInt

instance (cells : List Cell) : Decidable (IsIntegral cells) :=
  decidable_of_iff ((∀ c ∈ cells, c.isFloat = false) ∧
    (absoluteSum cells : Int) ≤ Int64.maxValue.toInt) ⟨fun h => ⟨h.1, h.2⟩, fun h => ⟨h.1, h.2⟩⟩

theorem natAbs_sum_le (cells : List Cell) :
    (cells.map amount).sum.natAbs ≤ absoluteSum cells := by
  induction cells with
  | nil => rfl
  | cons c cells ih =>
      simp only [absoluteSum, List.map_cons, List.sum_cons] at ih ⊢
      omega

theorem IsIntegral.of_sublist {as bs : List Cell} (h : IsIntegral bs) (hsub : as.Sublist bs) :
    IsIntegral as := by
  refine ⟨fun c hc => h.isFloat_eq_false c (hsub.subset hc), ?_⟩
  have hle : absoluteSum as ≤ absoluteSum bs :=
    (hsub.map fun c : Cell => c.amount.natAbs).sum_le_sum fun _ _ => Nat.zero_le _
  exact (Int.ofNat_le.mpr hle).trans h.bounded

theorem IsIntegral.of_perm {as bs : List Cell} (h : IsIntegral bs) (hperm : as.Perm bs) :
    IsIntegral as := by
  refine ⟨fun c hc => h.isFloat_eq_false c (hperm.mem_iff.mp hc), ?_⟩
  have heq : absoluteSum as = absoluteSum bs := (hperm.map _).sum_eq
  rw [heq]
  exact h.bounded

theorem IsIntegral.bounds {cells : List Cell} (h : IsIntegral cells) :
    -2 ^ 63 ≤ (cells.map amount).sum ∧ (cells.map amount).sum < 2 ^ 63 := by
  have hmax : Int64.maxValue.toInt = 9223372036854775807 := by decide
  have hbound := h.bounded
  have habs := natAbs_sum_le cells
  omega

theorem ofIntClamp_eq_ofInt {n : Int} (h : -2 ^ 63 ≤ n ∧ n < 2 ^ 63) :
    Int64.ofIntClamp n = Int64.ofInt n := by
  have hmin : Int64.minValue.toInt = -9223372036854775808 := by decide
  have hmax : Int64.maxValue.toInt = 9223372036854775807 := by decide
  rw [Int64.ofIntClamp, dif_pos (by omega), dif_pos (by omega), Int64.ofIntLE_eq_ofInt]

theorem amount_of_not_isCountable {c : Cell} (h : c.isCountable = false) : c.amount = 0 := by
  cases c <;> simp_all [isCountable, amount]

theorem counted_eq {c : Cell} (hfloat : c.isFloat = false) (h : c.isCountable = true) :
    c.counted = .int (Int64.ofInt c.amount) := by
  cases c <;> simp_all [isCountable, counted, amount, isFloat]

theorem add_of_isCountable {n : Int64} {c : Cell} (hfloat : c.isFloat = false)
    (h : -2 ^ 63 ≤ n.toInt + c.amount ∧ n.toInt + c.amount < 2 ^ 63) :
    (Cell.int n).add c = .int (Int64.ofInt (n.toInt + c.amount)) := by
  cases c with
  | bool b =>
      change Cell.int (Int64.ofIntClamp (n.toInt + (Cell.bool b).amount)) = _
      rw [ofIntClamp_eq_ofInt h]
  | int m =>
      change Cell.int (Int64.ofIntClamp (n.toInt + (Cell.int m).amount)) = _
      rw [ofIntClamp_eq_ofInt h]
  | float x => contradiction
  | _ =>
      change Cell.int n = _
      simp [amount]

theorem add_of_not_isCountable {total c : Cell} (htotal : total.isCountable = false)
    (hc : c.isCountable = true) : total.add c = c.counted := by
  simp only [add, htotal, hc]

theorem isCountable_add {total c : Cell} (htotal : total.isCountable = false)
    (hc : c.isCountable = false) : (total.add c).isCountable = false := by
  simp only [add, htotal, hc]
  cases total <;> cases c <;> rfl

theorem sum_concat (cells : List Cell) (c : Cell) : sum (cells ++ [c]) = (sum cells).add c := by
  rw [sum, List.foldl_append]
  rfl

theorem isCountable_sum {cells : List Cell} (h : ∀ c ∈ cells, c.isCountable = false) :
    (sum cells).isCountable = false := by
  induction cells using List.reverseRecOn with
  | nil => rfl
  | append_singleton cells c ih =>
      obtain ⟨hcells, hc⟩ := List.forall_mem_append.mp h
      rw [sum_concat]
      exact isCountable_add (ih hcells) (hc c (List.mem_singleton_self c))

theorem sum_amount_eq_zero {cells : List Cell} (h : ∀ c ∈ cells, c.isCountable = false) :
    (cells.map amount).sum = 0 := by
  refine List.sum_eq_zero fun n hn => ?_
  obtain ⟨c, hc, rfl⟩ := List.mem_map.mp hn
  exact amount_of_not_isCountable (h c hc)

/-- A sum to which any cell counts is the sum of what the cells count. -/
theorem sum_eq_int {cells : List Cell} (h : IsIntegral cells)
    (hany : cells.any isCountable = true) :
    sum cells = .int (Int64.ofInt (cells.map amount).sum) := by
  induction cells using List.reverseRecOn with
  | nil => contradiction
  | append_singleton cells c ih =>
      have hcells : IsIntegral cells := h.of_sublist (List.sublist_append_left cells [c])
      have hfloat : c.isFloat = false := h.isFloat_eq_false c (by simp)
      have hbounds := h.bounds
      have htotal : ((cells ++ [c]).map amount).sum = (cells.map amount).sum + c.amount := by simp
      rw [htotal] at hbounds ⊢
      rw [sum_concat]
      -- the first cell that counts takes the place of whatever came before it
      cases hprior : cells.any isCountable with
      | true =>
          have htoInt : (Int64.ofInt (cells.map amount).sum).toInt = (cells.map amount).sum :=
            Int64.toInt_ofInt_of_le hcells.bounds.1 hcells.bounds.2
          rw [ih hcells hprior, add_of_isCountable hfloat (by rwa [htoInt]), htoInt]
      | false =>
          have hnone : ∀ d ∈ cells, d.isCountable = false := by simpa using hprior
          have hc : c.isCountable = true := by simpa [hprior] using hany
          rw [add_of_not_isCountable (isCountable_sum hnone) hc, counted_eq hfloat hc,
            sum_amount_eq_zero hnone, Int.zero_add]

theorem shownNumber_of_not_isCountable {c : Cell} (h : c.isCountable = false) :
    FieldCatalog.shownNumber (some c) = 0 := by
  cases c <;> simp_all [isCountable, FieldCatalog.shownNumber, integer?]

theorem shownNumber_sum {cells : List Cell} (h : IsIntegral cells) :
    (FieldCatalog.shownNumber (some (sum cells))).toInt = (cells.map amount).sum := by
  cases hany : cells.any isCountable with
  | true =>
      rw [sum_eq_int h hany]
      exact Int64.toInt_ofInt_of_le h.bounds.1 h.bounds.2
  | false =>
      have hnone : ∀ c ∈ cells, c.isCountable = false := by simpa using hany
      rw [shownNumber_of_not_isCountable (isCountable_sum hnone), sum_amount_eq_zero hnone]
      rfl

theorem add_eq_null {total c : Cell} (htotal : total = .null) (hlist : c.isList = false)
    (hc : c.isCountable = false) : total.add c = .null := by
  subst htotal
  cases c <;> simp_all [add, isCountable, isList]

theorem sum_eq_null {cells : List Cell} (hlist : ∀ c ∈ cells, c.isList = false)
    (h : ∀ c ∈ cells, c.isCountable = false) : sum cells = .null := by
  induction cells using List.reverseRecOn with
  | nil => rfl
  | append_singleton cells c ih =>
      obtain ⟨hcells, hc⟩ := List.forall_mem_append.mp h
      obtain ⟨hlists, hclist⟩ := List.forall_mem_append.mp hlist
      rw [sum_concat]
      exact add_eq_null (ih hlists hcells) (hclist c (List.mem_singleton_self c))
        (hc c (List.mem_singleton_self c))

theorem sum_eq_of_perm {as bs : List Cell} (hperm : as.Perm bs) (h : IsIntegral bs)
    (hlist : ∀ c ∈ bs, c.isList = false) : sum as = sum bs := by
  cases hany : bs.any isCountable with
  | true =>
      rw [sum_eq_int (h.of_perm hperm) (hperm.any_eq.trans hany), sum_eq_int h hany,
        (hperm.map amount).sum_eq]
  | false =>
      have hnone : ∀ c ∈ bs, c.isCountable = false := by simpa using hany
      rw [sum_eq_null hlist hnone, sum_eq_null (fun c hc => hlist c (hperm.mem_iff.mp hc))
        fun c hc => hnone c (hperm.mem_iff.mp hc)]

end CrawlAudit.Cell
