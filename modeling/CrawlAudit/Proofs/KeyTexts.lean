import CrawlAudit.Proofs.CellOrder
import Mathlib.Data.Nat.Basic
import Mathlib.Logic.Function.Basic

/-!
# Keys and their texts

Rows are grouped by the total order on their key cells, and a pattern is known by the text of its
key. The two agree on texts and integers unless two cells of different kinds meet or integers are
too large to be told apart as doubles.
-/

namespace CrawlAudit

open Std

namespace Decimal

theorem digits_injective : Function.Injective digits := by
  intro m n h
  have hvalue := congrArg (fun ds => Nat.ofDigitChars 10 ds 0) h
  simpa [digits] using hvalue

theorem minus_notMem_digits (n : Nat) : '-' ∉ digits n := by
  intro h
  have hdigit : ('-').isDigit = true := Nat.isDigit_of_mem_toDigits (by decide) (by decide) h
  exact absurd hdigit (by decide)

theorem ofInt_injective : Function.Injective ofInt := by
  intro m n h
  rw [ofInt, ofInt] at h
  split at h <;> split at h
  · have habs := digits_injective (List.cons.inj h).2
    omega
  · exact absurd (h ▸ List.mem_cons_self ..) (minus_notMem_digits _)
  · exact absurd (h ▸ List.mem_cons_self ..) (minus_notMem_digits _)
  · have habs := digits_injective h
    omega

theorem text_injective : Function.Injective text := fun _ _ h =>
  ofInt_injective (String.ofList_injective h)

end Decimal

theorem Binary64.totalPlace_injective : Function.Injective Binary64.totalPlace := by
  intro x y h
  have hpow : Nat.pow 2 63 = 9223372036854775808 := rfl
  have hx := x.bits.toNat_lt
  have hy := y.bits.toNat_lt
  have hbits : x.bits.toNat = y.bits.toNat := by
    simp only [totalPlace, negative, magnitude, hpow, decide_eq_true_eq] at h
    split at h <;> split at h <;> omega
  exact congrArg Binary64.mk (UInt64.toNat_inj.mp hbits)

instance : LawfulEqCmp Binary64.totalCompare :=
  Order.lawfulEqCmp_on Order.integers Binary64.totalPlace_injective

namespace Cell

/-- Among some key cells no number but an integer itself is as great as the integer, and no text
is its numeral. -/
structure KeysAgree (cells : List Cell) : Prop where
  numbers : ∀ n, .int n ∈ cells →
    ∀ c ∈ cells, c.number? = some (Binary64.ofInt n.toInt) → c = .int n
  numerals : ∀ n, .int n ∈ cells → .text (Decimal.text n.toInt) ∉ cells

theorem keyText?_eq_some_iff {c : Cell} {key : String} :
    c.keyText? = some key ↔ c = .text key ∨ ∃ n, c = .int n ∧ Decimal.text n.toInt = key := by
  cases c <;> simp [keyText?]

theorem totalCompare_ne_eq {a b : Cell} (h : a.rank ≠ b.rank) : a.totalCompare b ≠ .eq := by
  rw [totalCompare_of_rank_ne h]
  exact fun heq => h (Int.ofNat_inj.mp (LawfulEqCmp.compare_eq_iff_eq.mp heq))

theorem totalCompare_text_eq_iff {s : String} {c : Cell} :
    (Cell.text s).totalCompare c = .eq ↔ c = .text s := by
  cases c with
  | text t =>
      rw [totalCompare_text, LawfulEqCmp.compare_eq_iff_eq, Cell.text.injEq, eq_comm]
  | _ => exact iff_of_false (totalCompare_ne_eq (by simp [rank])) (by simp)

theorem totalCompare_int_eq_iff {n : Int64} {c : Cell} :
    (Cell.int n).totalCompare c = .eq ↔ c.number? = some (Binary64.ofInt n.toInt) := by
  cases hc : c.number? with
  | none =>
      have hrank : (Cell.int n).rank ≠ c.rank := by
        cases c <;> simp_all [number?, rank]
      exact iff_of_false (totalCompare_ne_eq hrank) (by simp)
  | some x =>
      rw [totalCompare_number rfl hc, LawfulEqCmp.compare_eq_iff_eq, Option.some_inj, eq_comm]

/-- Key cells agree exactly when a cell with a text ties with the cells that have the same text. -/
theorem keysAgree_iff {cells : List Cell} :
    KeysAgree cells ↔ ∀ a ∈ cells, ∀ b ∈ cells, ∀ key ∈ a.keyText?,
      (a.totalCompare b = .eq ↔ b.keyText? = some key) := by
  constructor
  · intro h a ha b hb key hkey
    rcases keyText?_eq_some_iff.mp hkey with rfl | ⟨n, rfl, rfl⟩
    · rw [totalCompare_text_eq_iff, keyText?_eq_some_iff, iff_self_or]
      rintro ⟨m, rfl, rfl⟩
      exact absurd ha (h.numerals m hb)
    · rw [totalCompare_int_eq_iff, keyText?_eq_some_iff]
      constructor
      · exact fun hnumber => Or.inr ⟨n, h.numbers n ha b hb hnumber, rfl⟩
      · rintro (rfl | ⟨m, rfl, hm⟩)
        · exact absurd hb (h.numerals n ha)
        · have hmn : m = n := Int64.toInt_inj.mp (Decimal.text_injective hm)
          rw [hmn, number?]
  · intro h
    have htied : ∀ n, .int n ∈ cells → ∀ c ∈ cells,
        (c.number? = some (Binary64.ofInt n.toInt) ↔
          c.keyText? = some (Decimal.text n.toInt)) := fun n hn c hc => by
      rw [← totalCompare_int_eq_iff, h _ hn c hc _ rfl]
    refine ⟨fun n hn c hc hnumber => ?_, fun n hn htext => ?_⟩
    · rcases keyText?_eq_some_iff.mp ((htied n hn c hc).mp hnumber) with rfl | ⟨m, rfl, hm⟩
      · contradiction
      · rw [Int64.toInt_inj.mp (Decimal.text_injective hm)]
    · have hnumber := (htied n hn _ htext).mpr rfl
      contradiction

instance (cells : List Cell) : Decidable (KeysAgree cells) :=
  decidable_of_iff _ keysAgree_iff.symm

end Cell

end CrawlAudit
