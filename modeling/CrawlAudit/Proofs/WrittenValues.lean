import CrawlAudit.Proofs.SeparatedTexts
import CrawlAudit.Proofs.WrittenScalars
import CrawlAudit.Stream.Schema

/-!
# Written values

The values that stand in the columns of a line: integers in decimal digits, truth values as one
digit, integers between semicolons, and texts as they are. Each is read back by its own type, and
nothing that is written of them, texts apart, separates columns or ends a line.
-/

namespace CrawlAudit

namespace Decimal

theorem natural?_digits (n : Nat) : natural? (digits n) = some n := by
  have hempty : (digits n).isEmpty = false := List.isEmpty_eq_false_iff.mpr Nat.toDigits_ne_nil
  have hdigits : (digits n).all isDigit = true :=
    List.all_eq_true.mpr fun _ => Json.Number.isDigit_of_mem_digits
  rw [natural?, hempty, hdigits, value, Json.Number.ofDigitChars_digits]
  rfl

theorem integer?_digits (n : Nat) : integer? (digits n) = some (n : Int) := by
  obtain ⟨d, ds, hds, hdigit⟩ := Json.Number.exists_cons_digits n
  have hread := natural?_digits n
  rw [hds] at hread ⊢
  rw [integer?, hread]
  · rfl
  · rintro cs ⟨⟩
    cases hdigit
  · rintro cs ⟨⟩
    cases hdigit

theorem integer?_ofInt (n : Int) : integer? (ofInt n) = some n := by
  rw [ofInt]
  split
  · have habs : n = -(n.natAbs : Int) := by omega
    rw [integer?, natural?_digits]
    exact congrArg some habs.symm
  · have habs : n = (n.natAbs : Int) := by omega
    rw [integer?_digits, ← habs]

theorem int64?_ofInt (n : Int64) : int64? (ofInt n.toInt) = some n := by
  have hrange : Int64.minValue.toInt ≤ n.toInt ∧ n.toInt ≤ Int64.maxValue.toInt :=
    ⟨Int64.minValue_le_toInt n, Int64.toInt_le n⟩
  rw [int64?, integer?_ofInt, Option.bind_some, if_pos hrange, Int64.ofInt_toInt]

theorem startsNumber_of_mem_ofInt {n : Int} {c : Char} (h : c ∈ ofInt n) :
    Json.Token.startsNumber c = true := by
  have hdigit {c : Char} (hc : c ∈ digits n.natAbs) : Json.Token.startsNumber c = true := by
    rw [Json.Token.startsNumber, Json.Number.isDigit_of_mem_digits hc, Bool.or_true]
  rw [ofInt] at h
  split at h
  · rcases List.mem_cons.mp h with rfl | hc
    · rfl
    · exact hdigit hc
  · exact hdigit h

end Decimal

namespace Blank

theorem trim_eq_self {cs : List Char} (h : ∀ c ∈ cs, isBlank c = false) : trim cs = cs := by
  have hdrop {ds : List Char} (hds : ∀ c ∈ ds, isBlank c = false) : ds.dropWhile isBlank = ds := by
    cases ds with
    | nil => rfl
    | cons d ds => exact List.dropWhile_cons_of_neg (by simp [hds d])
  rw [trim, hdrop h, hdrop (by simpa using h), List.reverse_reverse]

theorem isBlank_of_startsNumber {c : Char} (h : Json.Token.startsNumber c = true) :
    isBlank c = false := by
  have hcode : c.toNat = 45 ∨ 48 ≤ c.toNat ∧ c.toNat ≤ 57 := by
    simp only [Json.Token.startsNumber, Decimal.isDigit, Bool.or_eq_true, Bool.and_eq_true,
      beq_iff_eq, decide_eq_true_eq] at h
    rcases h with rfl | ⟨hlow, hhigh⟩
    · exact .inl rfl
    · exact .inr ⟨hlow, hhigh⟩
  simp only [isBlank, Bool.or_eq_false_iff, Bool.and_eq_false_iff, decide_eq_false_iff_not,
    beq_eq_false_iff_ne]
  omega

theorem trim_ofInt (n : Int) : trim (Decimal.ofInt n) = Decimal.ofInt n :=
  trim_eq_self fun _ hc => isBlank_of_startsNumber (Decimal.startsNumber_of_mem_ofInt hc)

end Blank

/-- The values that a column is written from. Doubles have no written form. -/
inductive ColumnValue where
  | int (n : Int64)
  | text (s : String)
  | bool (b : Bool)
  | intList (ns : List Int64)

namespace ColumnValue

def type : ColumnValue → ColumnType
  | .int _ => .int
  | .text _ => .text
  | .bool _ => .bool
  | .intList _ => .intList

def cell : ColumnValue → Cell
  | .int n => .int n
  | .text s => .text s
  | .bool b => .bool b
  | .intList ns => .ofIntegers ns

/-- The text of a value in a line. -/
def written : ColumnValue → String
  | .int n => Decimal.text n.toInt
  | .text s => s
  | .bool b => if b then "1" else "0"
  | .intList ns => ";".intercalate (ns.map fun n => Decimal.text n.toInt)

theorem toList_written_intList (ns : List Int64) :
    (written (.intList ns)).toList = [';'].intercalate (ns.map fun n => Decimal.ofInt n.toInt) := by
  rw [written, String.toList_intercalate, List.map_map]
  simp only [Function.comp_def, Decimal.text, String.toList_ofList]
  rfl

theorem integers?_intercalate (ns : List Int64) :
    ColumnType.integers? ([';'].intercalate (ns.map fun n => Decimal.ofInt n.toInt)) =
      some ns := by
  cases ns with
  | nil => rfl
  | cons n ns =>
      have hplain : ∀ piece ∈ (n :: ns).map fun n => Decimal.ofInt n.toInt, ';' ∉ piece := by
        rw [List.forall_mem_map]
        intro n _ hmem
        cases Decimal.startsNumber_of_mem_ofInt hmem
      have hblank : Blank.allBlank
          ([';'].intercalate ((n :: ns).map fun n => Decimal.ofInt n.toInt)) = false := by
        obtain ⟨c, t, hc, hstart⟩ := Json.Token.exists_cons_ofInt n.toInt
        rw [List.map_cons, hc, List.intercalate_cons_cons_left, Blank.allBlank, List.all_cons,
          Blank.isBlank_of_startsNumber hstart, Bool.false_and]
      rw [ColumnType.integers?, hblank, List.splitOn_intercalate ';' hplain (List.cons_ne_nil _ _)]
      exact mapM_map_eq_some fun n _ => by rw [Blank.trim_ofInt, Decimal.int64?_ofInt]

theorem read?_written (value : ColumnValue) : value.type.read? value.written = some value.cell := by
  cases value with
  | int n =>
      have hread : Decimal.int64? (Blank.trimmed (Decimal.text n.toInt)) = some n := by
        rw [Blank.trimmed, Decimal.text, String.toList_ofList, Blank.trim_ofInt,
          Decimal.int64?_ofInt]
      simp only [type, written, cell, ColumnType.read?, hread, Option.map_some]
  | text s => rfl
  | bool b => cases b <;> rfl
  | intList ns =>
      simp only [type, cell, ColumnType.read?, toList_written_intList, integers?_intercalate,
        Option.map_some]

theorem mem_written {value : ColumnValue} {c : Char} (h : c ∈ value.written.toList) :
    (∃ s, value = .text s ∧ c ∈ s.toList) ∨ c = ';' ∨ Json.Token.startsNumber c = true := by
  cases value with
  | int n =>
      rw [written, Decimal.text, String.toList_ofList] at h
      exact .inr (.inr (Decimal.startsNumber_of_mem_ofInt h))
  | text s => exact .inl ⟨s, rfl, h⟩
  | bool b => cases b <;> cases List.mem_singleton.mp h <;> exact .inr (.inr rfl)
  | intList ns =>
      rw [toList_written_intList] at h
      rcases SeparatedText.mem_of_mem_intercalate h with rfl | ⟨piece, hpiece, hc⟩
      · exact .inr (.inl rfl)
      · obtain ⟨n, -, rfl⟩ := List.mem_map.mp hpiece
        exact .inr (.inr (Decimal.startsNumber_of_mem_ofInt hc))

theorem not_mem_written {value : ColumnValue} (h : ∀ s, value = .text s → '\t' ∉ s.toList) :
    '\t' ∉ value.written.toList := by
  intro hmem
  rcases mem_written hmem with ⟨s, hs, htab⟩ | heq | hstart
  · exact h s hs htab
  · cases heq
  · cases hstart

end ColumnValue

end CrawlAudit
