import CrawlAudit.Filter.Reader
import CrawlAudit.Text.Lowercase
import Mathlib.Logic.Basic

/-!
# Names of predicates

The reader finds a predicate by its name with the ASCII letters in lower case. This is the name in
lower case, because the lower case of any other character has one that stands in no name.
-/

namespace CrawlAudit

namespace Predicate

theorem ofName?_name (p : Predicate) : ofName? p.name = some p := by
  cases p <;> decide

theorem foldCase_name (p : Predicate) : foldCase p.name = p.name := by
  cases p <;> decide

theorem toNat_of_mem_name {p : Predicate} {c : Char} (h : c ∈ p.name.toList) :
    97 ≤ c.toNat ∧ c.toNat ≤ 122 ∧ c ≠ 'k' := by
  have hnames : (p.name.toList.all fun c => 97 ≤ c.toNat ∧ c.toNat ≤ 122 ∧ c ≠ 'k') = true := by
    cases p <;> decide
  exact of_decide_eq_true (List.all_eq_true.mp hnames c h)

theorem ofName?_eq_some_iff_foldCase {s : String} {p : Predicate} :
    ofName? s = some p ↔ foldCase s = p.name := by
  constructor
  · intro h
    have hfound := List.find?_some h
    exact (eq_of_beq hfound).symm
  · intro h
    rw [← ofName?_name p, ofName?, ofName?, h, foldCase_name]

end Predicate

theorem tableItems_ofList (cs : List Char) :
    tableItems (String.ofList cs) =
      (cs.splitOnP Char.isWhitespace).filter fun item => !item.isEmpty := by
  rw [tableItems, String.toList_ofList]

namespace Lowercase

set_option maxRecDepth 10000 in
theorem apply_of_ascii : ∀ n < 128, table.apply (Char.ofNat n) = [(Char.ofNat n).toLower] := by
  rw [table, CodeMap.ofText, tableItems_ofList]
  decide +kernel

set_option maxRecDepth 10000 in
theorem entries_of_table :
    ∀ entry ∈ table, entry.1.last < 128 ∨ (∃ target ∈ entry.2, 128 ≤ target) ∨
      entry.1.first = entry.1.last ∧ entry.2 = ['k'.toNat] := by
  rw [table, CodeMap.ofText, tableItems_ofList]
  decide +kernel

theorem notMem_name_of_le {c : Char} (h : 128 ≤ c.toNat) (p : Predicate) :
    c ∉ p.name.toList := by
  intro hmem
  have hletter := Predicate.toNat_of_mem_name hmem
  omega

theorem ofNat_notMem_name {n : Nat} (h : 128 ≤ n) (p : Predicate) :
    Char.ofNat n ∉ p.name.toList := by
  by_cases hvalid : n.isValidChar
  · rw [Char.ofNat, dif_pos hvalid]
    exact notMem_name_of_le (show 128 ≤ (Char.ofNatAux n hvalid).toNat from h) p
  · rw [Char.ofNat, dif_neg hvalid]
    cases p <;> decide

theorem toLower_of_le {c : Char} (h : 128 ≤ c.toNat) : c.toLower = c := by
  have hletter : ¬(c.val ≥ 'A'.val ∧ c.val ≤ 'Z'.val) := by
    rintro ⟨-, hle⟩
    have hnat : c.toNat ≤ 90 := UInt32.le_iff_toNat_le.mp hle
    omega
  exact dif_neg hletter

theorem exists_mem_apply {c : Char} (hc : 128 ≤ c.toNat) (p : Predicate) :
    ∃ x ∈ table.apply c, x ∉ p.name.toList := by
  cases hget : table.get? c.toNat with
  | none =>
      rw [CodeMap.apply, hget]
      exact ⟨c, List.mem_singleton_self c, notMem_name_of_le hc p⟩
  | some codes =>
      obtain ⟨entry, hentry, rfl⟩ := Option.map_eq_some_iff.mp hget
      have hcontains := List.find?_some hentry
      simp only [CodeRun.contains, Bool.and_eq_true, decide_eq_true_eq] at hcontains
      rw [CodeMap.apply, hget]
      simp only [List.map_map, List.mem_map, exists_exists_and_eq_and]
      rcases entries_of_table entry (List.mem_of_find?_eq_some hentry) with
        hlast | ⟨target, htarget, hle⟩ | ⟨hfirst, hcodes⟩
      · omega
      · exact ⟨target, htarget, ofNat_notMem_name (Nat.le_add_right_of_le hle) p⟩
      · have hzero : c.toNat - entry.1.first = 0 := by omega
        refine ⟨'k'.toNat, hcodes ▸ List.mem_singleton_self _, fun hmem => ?_⟩
        rw [Function.comp_apply, hzero] at hmem
        exact (Predicate.toNat_of_mem_name hmem).2.2 rfl

theorem rest_of_ascii {cs : List Char} (h : ∀ c ∈ cs, c.toNat < 128) (before : List Char) :
    rest before cs = cs.map Char.toLower := by
  induction cs generalizing before with
  | nil => rfl
  | cons c cs ih =>
      obtain ⟨hc, hcs⟩ := List.forall_mem_cons.mp h
      have hsigma : c ≠ 'Σ' := by
        rintro rfl
        contradiction
      have happly := apply_of_ascii c.toNat hc
      rw [Char.ofNat_toNat] at happly
      rw [rest, ih hcs, character, if_neg fun h => hsigma h.1, happly]
      rfl

theorem exists_mem_rest {cs : List Char} {c : Char} (hmem : c ∈ cs) (hc : 128 ≤ c.toNat)
    (before : List Char) (p : Predicate) : ∃ x ∈ rest before cs, x ∉ p.name.toList := by
  induction cs generalizing before with
  | nil => contradiction
  | cons d cs ih =>
      rw [rest]
      rcases List.mem_cons.mp hmem with rfl | hmem
      · have hcharacter : ∃ x ∈ character before c cs, x ∉ p.name.toList := by
          rw [character]
          split
          · exact ⟨'ς', List.mem_singleton_self _, notMem_name_of_le (by decide) p⟩
          · exact exists_mem_apply hc p
        obtain ⟨x, hx, hname⟩ := hcharacter
        exact ⟨x, List.mem_append_left _ hx, hname⟩
      · obtain ⟨x, hx, hname⟩ := ih hmem (d :: before)
        exact ⟨x, List.mem_append_right _ hx, hname⟩

end Lowercase

namespace Predicate

/-- A text is the name of a predicate in some case if it is the name in lower case. -/
theorem ofName?_eq_some_iff {s : String} {p : Predicate} :
    ofName? s = some p ↔ Lowercase.text s = p.name := by
  rw [ofName?_eq_some_iff_foldCase]
  by_cases hascii : ∀ c ∈ s.toList, c.toNat < 128
  · rw [foldCase, Lowercase.text, Lowercase.rest_of_ascii hascii]
  · simp only [not_forall, Nat.not_lt] at hascii
    obtain ⟨c, hmem, hc⟩ := hascii
    obtain ⟨x, hx, hname⟩ := Lowercase.exists_mem_rest hmem hc [] p
    refine iff_of_false (fun h => ?_) fun h => ?_
    · have hfold : c ∈ (foldCase s).toList := by
        rw [foldCase, String.toList_ofList]
        exact List.mem_map.mpr ⟨c, hmem, Lowercase.toLower_of_le hc⟩
      exact Lowercase.notMem_name_of_le hc p (h ▸ hfold)
    · rw [← h, Lowercase.text, String.toList_ofList] at hname
      exact hname hx

end Predicate

end CrawlAudit
