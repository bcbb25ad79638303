import CrawlAudit.Cell.Order
import CrawlAudit.Proofs.OrderLaws

/-!
# The total order on cells

The order by which rows are grouped and sorted is a total preorder: swapping the arguments swaps
the result, and it is transitive, for lists of any depth.
-/

namespace CrawlAudit

open Std

instance : TransCmp Binary64.totalCompare :=
  Order.transCmp_on Order.integers Binary64.totalPlace

namespace Cell

theorem plain_list_induction {motive : Cell → Prop}
    (plain : ∀ c, (∀ items, c ≠ .list items) → motive c)
    (list : ∀ items, (∀ c ∈ items, motive c) → motive (.list items)) (c : Cell) : motive c := by
  cases c with
  | list items => exact list items fun c _ => plain_list_induction plain list c
  | _ => exact plain _ (by simp)

theorem kinds_of_rank_eq {a b : Cell} (h : a.rank = b.rank) :
    (a = .null ∧ b = .null) ∨ (∃ x y, a.number? = some x ∧ b.number? = some y) ∨
      (∃ s t, a = .text s ∧ b = .text t) ∨ ∃ as bs, a = .list as ∧ b = .list bs := by
  cases a <;> cases b <;> simp_all [number?, rank]

theorem totalCompare_number {a b : Cell} {x y : Binary64} (ha : a.number? = some x)
    (hb : b.number? = some y) : a.totalCompare b = x.totalCompare y := by
  cases a <;> cases b <;> simp_all [number?, totalCompare]

theorem totalCompare_of_rank_ne {a b : Cell} (h : a.rank ≠ b.rank) :
    a.totalCompare b = Order.integers a.rank b.rank := by
  cases a <;> cases b <;> first | rfl | exact absurd rfl h

theorem totalCompare_of_rank_lt {a b : Cell} (h : a.rank < b.rank) : a.totalCompare b = .lt := by
  rw [totalCompare_of_rank_ne (Nat.ne_of_lt h), Order.integers_eq_lt]
  exact Int.ofNat_lt.mpr h

theorem totalCompare_of_rank_gt {a b : Cell} (h : b.rank < a.rank) : a.totalCompare b = .gt := by
  rw [totalCompare_of_rank_ne (Nat.ne_of_gt h), OrientedCmp.gt_iff_lt, Order.integers_eq_lt]
  exact Int.ofNat_lt.mpr h

theorem rank_le_of_isLE {a b : Cell} (h : (a.totalCompare b).isLE) : a.rank ≤ b.rank := by
  refine Nat.le_of_not_lt fun hgt => ?_
  rw [totalCompare_of_rank_gt hgt] at h
  contradiction

theorem totalCompareItems_eq_lists (as bs : List Cell) :
    totalCompareItems as bs = Order.lists totalCompare as bs := by
  induction as generalizing bs with
  | nil => cases bs <;> rfl
  | cons a as ih =>
      cases bs with
      | nil => rfl
      | cons b bs => rw [totalCompareItems, Order.lists, ih]

theorem totalCompare_list (as bs : List Cell) :
    (Cell.list as).totalCompare (.list bs) = Order.lists totalCompare as bs := by
  rw [totalCompare, totalCompareItems_eq_lists]

end Cell

namespace Order

variable {α : Type} {order : α → α → Ordering}

theorem eq_then_of_isLE [TransCmp order] {a b c : α} (hab : (order a b).isLE)
    (hbc : (order b c).isLE) : order a c = (order a b).then (order b c) := by
  cases ho : order a b with
  | lt => exact TransCmp.lt_of_lt_of_isLE ho hbc
  | eq => exact TransCmp.congr_left ho
  | gt => simp [ho] at hab

theorem lists_swap {as : List α} (h : ∀ a ∈ as, ∀ b, order a b = (order b a).swap)
    (bs : List α) : lists order as bs = (lists order bs as).swap := by
  induction as generalizing bs with
  | nil => cases bs <;> rfl
  | cons a as ih =>
      obtain ⟨ha, has⟩ := List.forall_mem_cons.mp h
      cases bs with
      | nil => rfl
      | cons b bs => rw [lists, lists, ha, ih has, Ordering.swap_then]

theorem lists_eq_then {as : List α}
    (h : ∀ a ∈ as, ∀ b c, (order a b).isLE → (order b c).isLE →
      order a c = (order a b).then (order b c))
    {bs cs : List α} (hab : (lists order as bs).isLE) (hbc : (lists order bs cs).isLE) :
    lists order as cs = (lists order as bs).then (lists order bs cs) := by
  induction as generalizing bs cs with
  | nil =>
      cases bs with
      | nil => rfl
      | cons b bs =>
          cases cs with
          | nil => contradiction
          | cons c cs => rfl
  | cons a as ih =>
      cases bs with
      | nil => contradiction
      | cons b bs =>
          cases cs with
          | nil => contradiction
          | cons c cs =>
              obtain ⟨ha, has⟩ := List.forall_mem_cons.mp h
              simp only [lists, Ordering.isLE_then_iff_and] at hab hbc ⊢
              rw [ha b c hab.1 hbc.1]
              cases h₁ : order a b with
              | gt => simp [h₁] at hab
              | lt => rfl
              | eq =>
                  have htails : (lists order as bs).isLE := by simpa [h₁] using hab.2
                  cases h₂ : order b c with
                  | gt => simp [h₂] at hbc
                  | lt =>
                      cases hr : lists order as bs with
                      | gt => simp [hr] at htails
                      | _ => rfl
                  | eq => exact ih has htails (by simpa [h₂] using hbc.2)

end Order

namespace Cell

theorem totalCompare_text (s t : String) :
    (Cell.text s).totalCompare (.text t) = Order.texts s t :=
  rfl

theorem totalCompare_swap (a b : Cell) : a.totalCompare b = (b.totalCompare a).swap := by
  induction a using plain_list_induction generalizing b with
  | list as ih =>
      cases b with
      | list bs =>
          rw [totalCompare_list, totalCompare_list]
          exact Order.lists_swap ih bs
      | _ => rfl
  | plain a ha =>
      rcases Nat.lt_trichotomy a.rank b.rank with hlt | heq | hgt
      · rw [totalCompare_of_rank_lt hlt, totalCompare_of_rank_gt hlt]
        rfl
      · rcases kinds_of_rank_eq heq with ⟨rfl, rfl⟩ | ⟨x, y, hx, hy⟩ | ⟨s, t, rfl, rfl⟩ |
          ⟨as, bs, rfl, rfl⟩
        · rfl
        · rw [totalCompare_number hx hy, totalCompare_number hy hx]
          exact OrientedCmp.eq_swap
        · rw [totalCompare_text, totalCompare_text]
          exact OrientedCmp.eq_swap
        · exact absurd rfl (ha as)
      · rw [totalCompare_of_rank_gt hgt, totalCompare_of_rank_lt hgt]
        rfl

theorem totalCompare_eq_then (a b c : Cell) (hab : (a.totalCompare b).isLE)
    (hbc : (b.totalCompare c).isLE) :
    a.totalCompare c = (a.totalCompare b).then (b.totalCompare c) := by
  induction a using plain_list_induction generalizing b c with
  | list as ih =>
      have hb := rank_le_of_isLE hab
      have hc := rank_le_of_isLE hbc
      cases b with
      | list bs =>
          cases c with
          | list cs =>
              rw [totalCompare_list] at hab hbc ⊢
              rw [totalCompare_list, totalCompare_list]
              exact Order.lists_eq_then ih hab hbc
          | _ => simp [rank] at hc
      | _ => simp [rank] at hb
  | plain a ha =>
      rcases Nat.lt_or_eq_of_le (rank_le_of_isLE hab) with hlt | heq
      · rw [totalCompare_of_rank_lt hlt,
          totalCompare_of_rank_lt (Nat.lt_of_lt_of_le hlt (rank_le_of_isLE hbc))]
        rfl
      rcases Nat.lt_or_eq_of_le (rank_le_of_isLE hbc) with hlt' | heq'
      · rw [totalCompare_of_rank_lt hlt', totalCompare_of_rank_lt (heq ▸ hlt')]
        cases ho : a.totalCompare b with
        | gt => simp [ho] at hab
        | _ => rfl
      rcases kinds_of_rank_eq heq with ⟨rfl, rfl⟩ | ⟨x, y, hx, hy⟩ | ⟨s, t, rfl, rfl⟩ |
        ⟨as, bs, rfl, rfl⟩
      · rfl
      · obtain ⟨z, hz⟩ : ∃ z, c.number? = some z := by
          cases b <;> cases c <;> simp_all [number?, rank]
        rw [totalCompare_number hx hy] at hab ⊢
        rw [totalCompare_number hy hz] at hbc ⊢
        rw [totalCompare_number hx hz]
        exact Order.eq_then_of_isLE hab hbc
      · obtain ⟨u, rfl⟩ : ∃ u, c = .text u := by
          cases c <;> simp_all [rank]
        rw [totalCompare_text] at hab hbc ⊢
        rw [totalCompare_text, totalCompare_text]
        exact Order.eq_then_of_isLE hab hbc
      · exact absurd rfl (ha as)

instance : TransCmp totalCompare where
  eq_swap := totalCompare_swap _ _
  isLE_trans {a b c} hab hbc := by
    rw [totalCompare_eq_then a b c hab hbc, Ordering.isLE_then_iff_and]
    exact ⟨hab, Or.inr hbc⟩

end Cell

end CrawlAudit
